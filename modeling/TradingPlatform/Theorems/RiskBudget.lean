import TradingPlatform.Lemmas.Commitments

/-!
# The portfolio risk budget over whole runs

A reservation is admitted only if everything committed stays within the budget. Over a run the admitted reservations stay
within it, however they are released, handed over to a position or closed. What the gate never saw is outside: an intent that
a late fill brings back, one that was persisted without a reservation, one that is projected under another symbol, and one
reserved under the key of an exit.
-/

namespace TradingPlatform

/-! ## Inside and outside the budget -/

/-- The reservations of a run are checked against the equity, with the limits on. -/
def PersistOp.reservesAgainst (equity : ℚ) : PersistOp → Bool
  | .reserve a => decide (a.accountEquity = some equity) && a.portfolioRiskEnforced &&
    decide (a.maxOpenPositions = maxOpenPositionsDefault)
  | _ => true

/-- The facts are not those of a live reservation under its own symbol, direction and mode. -/
def EntryFacts.unreserved (a : EntryFacts) (db : Database) : Bool :=
  match db.intent a.intentId with
  | none => true
  | some r => r.initialRiskUsdt.isNone || r.state.correctable ||
    (a.projectPosition && decide (r.symbol ≠ a.symbol ∨ r.direction ≠ a.direction ∨ r.executionMode ≠ a.executionMode))

/-- The intents an operation takes outside the budget. -/
def PersistOp.departs (db : Database) : PersistOp → List String
  | .reserve a =>
    match persistEntryIntentBeforeSubmission db a with
    | .ok (none, _) => if isExitKey a.candidateKey && (db.intent a.intentId).isNone then [a.intentId] else []
    | _ => []
  | .entryAndProtection a =>
    match persistEntryAndProtection db a with
    | .ok _ => if a.entryResult.positionProjectable && a.unreserved db then [a.intentId] else []
    | .error _ => []
  | .reconcileIntent intentId =>
    match reconcileIntentFromConfirmedFill db intentId with
    | .ok _ => if (db.intent intentId).any fun r => r.state.correctable then [intentId] else []
    | .error _ => []
  | _ => []

/-- The intents a run takes outside the budget. -/
def outsideBudget : Database → List PersistOp → List String
  | _, [] => []
  | db, op :: ops => op.departs db ++ outsideBudget (op.apply db) ops

/-- The commitments inside the budget. -/
def Database.inside (db : Database) (outside : List String) (mode : V2ExecutionMode) : List Commitment :=
  (db.commitments mode).filter fun c => decide (c.intentId ∉ outside)

/-- The exposures inside the budget. -/
def Database.insideExposures (db : Database) (outside : List String) (mode : V2ExecutionMode) : List RiskExposure :=
  (db.inside outside mode).filterMap Commitment.exposure

/-- The exposures are within the budget of an equity: all of them, and those on the cluster in each direction. -/
def WithinBudget (equity : ℚ) (exposures : List RiskExposure) : Prop :=
  sumRisk exposures ≤ maxTotalInitialRiskFraction * equity ∧
    ∀ direction, sumRisk (clusterExposures exposures direction) ≤ maxSameDirectionClusterRiskFraction * equity

namespace BudgetAux

/-- What a commitment weighs. -/
def amount (c : Commitment) : ℚ := (knownRisk c.risk).getD 0

/-- What a commitment weighs on the cluster in a direction. -/
def clusterAmount (direction : Direction) (c : Commitment) : ℚ :=
  if inCluster c.symbol && decide (c.direction = direction) then amount c else 0

theorem knownRisk_pos {risk : Option ℚ} {q : ℚ} (h : knownRisk risk = some q) : 0 < q := by
  unfold knownRisk at h
  exact of_decide_eq_true (Option.filter_eq_some_iff.mp h).2

theorem amount_nonneg (c : Commitment) : 0 ≤ amount c := by
  unfold amount
  cases hrisk : knownRisk c.risk with
  | none => exact le_refl 0
  | some q => exact le_of_lt (knownRisk_pos hrisk)

theorem clusterAmount_nonneg (direction : Direction) (c : Commitment) : 0 ≤ clusterAmount direction c := by
  unfold clusterAmount
  split
  · exact amount_nonneg c
  · exact le_refl 0

theorem sumRisk_exposures (l : List Commitment) : sumRisk (l.filterMap Commitment.exposure) = (l.map amount).sum := by
  induction l with
  | nil => rfl
  | cons c l ih =>
    unfold sumRisk at ih ⊢
    unfold Commitment.exposure amount at *
    cases hrisk : knownRisk c.risk with
    | none => simpa [hrisk] using ih
    | some q => simpa [hrisk] using ih

theorem sumRisk_clusterExposures (direction : Direction) (l : List Commitment) :
    sumRisk (clusterExposures (l.filterMap Commitment.exposure) direction) = (l.map (clusterAmount direction)).sum := by
  induction l with
  | nil => rfl
  | cons c l ih =>
    unfold sumRisk clusterExposures at ih ⊢
    unfold Commitment.exposure clusterAmount amount at *
    cases hrisk : knownRisk c.risk with
    | none => simpa [hrisk] using ih
    | some q =>
      by_cases hin : (inCluster c.symbol && decide (c.direction = direction)) = true
      · simp only [List.filterMap_cons, hrisk, Option.map_some, List.filter_cons, hin, if_true, List.map_cons, List.sum_cons,
          ih, Option.getD_some]
      · simp only [List.filterMap_cons, hrisk, Option.map_some, List.filter_cons, hin, Bool.false_eq_true, if_false,
          List.map_cons, List.sum_cons, ih, zero_add]

/-- What an intent departed with is outside from then on. -/
theorem mem_outsideBudget_cons {db : Database} {op : PersistOp} {ops : List PersistOp} {id : String} :
    id ∈ outsideBudget db (op :: ops) ↔ id ∈ op.departs db ∨ id ∈ outsideBudget (op.apply db) ops := by
  simp [outsideBudget]

/-- What every state of a run keeps. -/
structure Invariant (equity : ℚ) (db : Database) (outside : List String) : Prop where
  keyed : db.Keyed
  backed : db.Backed
  exits : ∀ r ∈ db.intents, isExitKey r.candidateKey = true → r.intentId ∉ outside → r.initialRiskUsdt = none
  total : ∀ mode, ((db.inside outside mode).map amount).sum ≤ maxTotalInitialRiskFraction * equity
  cluster : ∀ mode direction,
    ((db.inside outside mode).map (clusterAmount direction)).sum ≤ maxSameDirectionClusterRiskFraction * equity

/-- The commitment an operation adds after the gate admitted it. -/
def admitted (db : Database) (mode : V2ExecutionMode) : PersistOp → List Commitment
  | .reserve a =>
    if reservationBlock db a = none ∧ a.executionMode = mode then [(a.intentRow (some a.initialRiskUsdt)).commitment] else []
  | _ => []

/-- A commitment inside the budget was inside before, on the same terms, or the gate admitted it. -/
def Covered (db : Database) (outside : List String) (op : PersistOp) (mode : V2ExecutionMode) (c : Commitment) : Prop :=
  ∃ c₀ ∈ db.inside outside mode ++ admitted db mode op, c₀.intentId = c.intentId ∧ c₀.symbol = c.symbol ∧
    c₀.direction = c.direction ∧ c.risk = c₀.risk

section Covered

variable {equity : ℚ} {db : Database} {outside : List String} {mode : V2ExecutionMode} {c : Commitment}

theorem mem_inside : c ∈ db.inside outside mode ↔ c ∈ db.commitments mode ∧ c.intentId ∉ outside := by
  simp [Database.inside, List.mem_filter]

/-- A commitment that was there before, on the same terms. -/
theorem covered_of_kept {op : PersistOp} {c₀ : Commitment} (hmem : c₀ ∈ db.commitments mode)
    (hid : c₀.intentId = c.intentId) (hsymbol : c₀.symbol = c.symbol) (hdirection : c₀.direction = c.direction)
    (hrisk : c.risk = c₀.risk) (hout : c.intentId ∉ outside) : Covered db outside op mode c :=
  ⟨c₀, List.mem_append_left _ (mem_inside.mpr ⟨hmem, hid ▸ hout⟩), hid, hsymbol, hdirection, hrisk⟩

/-- An operation that changes nothing covers everything. -/
theorem covered_of_same {op : PersistOp} (hc : c ∈ db.commitments mode) (hout : c.intentId ∉ outside) :
    Covered db outside op mode c :=
  covered_of_kept hc rfl rfl rfl rfl hout

/-- An operation that revives and prices nothing, and adds at most exits, covers what is inside. -/
theorem covered_of_quiet {op : PersistOp} {s : Scope} {db' : Database} (hb : db.Backed) (h : Effect s db db')
    (hrevives : ∀ id, ¬s.revives id) (hprices : ∀ id, ¬s.prices id)
    (hintent : ∀ r, s.newIntent r → isExitKey r.candidateKey = true) (hposition : ∀ p, ¬s.newPosition p)
    (hc : c ∈ db'.commitments mode) (hout : c.intentId ∉ outside) : Covered db outside op mode c := by
  cases commitment_origin hb h hc with
  | kept c₀ hmem hid hsymbol hdirection hrisk =>
    rcases hrisk with hrisk | ⟨-, hprice⟩
    · exact covered_of_kept hmem hid hsymbol hdirection hrisk hout
    · exact absurd hprice (hprices _)
  | handedOver p _ hnew => exact absurd hnew (hposition p)
  | reserved r _ hnew _ hkey =>
    rw [hintent r hnew] at hkey
    nomatch hkey
  | revived hid => exact absurd hid (hrevives _)

/-- The commitment of a reservation is the one it was admitted for. -/
theorem covered_reserve {a : EntryReservation} (hinv : Invariant equity db outside)
    (hc : c ∈ ((PersistOp.reserve a).apply db).commitments mode) (hout : c.intentId ∉ outside) :
    Covered db outside (.reserve a) mode c := by
  have heffect := (PersistOp.reserve a).apply_effect hinv.keyed
  rcases PersistOp.reserve_cases db a with hsame | ⟨hblock, -⟩
  · rw [hsame] at hc
    exact covered_of_same hc hout
  · cases commitment_origin hinv.backed heffect hc with
    | kept c₀ hmem hid hsymbol hdirection hrisk =>
      rcases hrisk with hrisk | ⟨-, hprice⟩
      · exact covered_of_kept hmem hid hsymbol hdirection hrisk hout
      · exact hprice.elim
    | handedOver p _ hnew => exact hnew.elim
    | reserved r _ hnew hmode _ heq =>
      refine ⟨(a.intentRow (some a.initialRiskUsdt)).commitment, List.mem_append_right _ ?_, ?_⟩
      · have hadmitted : reservationBlock db a = none ∧ a.executionMode = mode := ⟨hblock, hnew.1.mode.symm.trans hmode⟩
        simp only [admitted, hadmitted, and_self, if_true, List.mem_singleton]
      · rw [heq]
        exact ⟨hnew.1.id.symm, hnew.1.symbol.symm, hnew.1.direction.symm, hnew.1.risk⟩
    | revived hid => exact hid.elim

/-- A reconciliation brings back only intents that depart. -/
theorem covered_reconcile {intentId : String} (hinv : Invariant equity db outside)
    (hc : c ∈ ((PersistOp.reconcileIntent intentId).apply db).commitments mode) (hout : c.intentId ∉ outside)
    (hdep : c.intentId ∉ (PersistOp.reconcileIntent intentId).departs db) :
    Covered db outside (.reconcileIntent intentId) mode c := by
  have heffect := (PersistOp.reconcileIntent intentId).apply_effect hinv.keyed
  rcases PersistOp.reconcileIntent_cases db intentId with hsame | hres
  · rw [hsame] at hc
    exact covered_of_same hc hout
  · cases commitment_origin hinv.backed heffect hc with
    | kept c₀ hmem hid hsymbol hdirection hrisk =>
      rcases hrisk with hrisk | ⟨-, hprice⟩
      · exact covered_of_kept hmem hid hsymbol hdirection hrisk hout
      · exact hprice.elim
    | handedOver p _ hnew => exact hnew.elim
    | reserved r _ hnew => exact hnew.elim
    | revived hid r hr hcid hstate =>
      have hid : c.intentId = intentId := hid
      obtain ⟨r', hr', hlive, -⟩ := reconcileIntentFromConfirmedFill_ok hres
      have hget := Table.get_of_mem hinv.keyed.intents hr
      rw [hcid, hid] at hget
      cases hget.symm.trans hr'
      have hcorrectable := correctable_of_reconciled hlive hstate
      refine absurd ?_ hdep
      simp only [PersistOp.departs, hres, hr', Option.any_some, hcorrectable, if_true, hid, List.mem_singleton]

/-- Facts that do not depart are those of a live reservation. -/
theorem reservation_of_not_departs {a : EntryFacts} {db' : Database} (hres : persistEntryAndProtection db a = .ok db')
    (hp : a.entryResult.positionProjectable = true) (hdep : a.intentId ∉ (PersistOp.entryAndProtection a).departs db) :
    ∃ r, db.intent a.intentId = some r ∧ r.initialRiskUsdt ≠ none ∧ r.state.active = true ∧
      (a.projectPosition = true → r.symbol = a.symbol ∧ r.direction = a.direction ∧ r.executionMode = a.executionMode) := by
  have hreserved : a.unreserved db = false := by
    cases hun : a.unreserved db with
    | false => rfl
    | true => simp [PersistOp.departs, hres, hp, hun] at hdep
  unfold EntryFacts.unreserved at hreserved
  split at hreserved
  · nomatch hreserved
  · rename_i r hr
    simp only [Bool.or_eq_false_iff, Option.isNone_eq_false_iff] at hreserved
    obtain ⟨⟨hrisk, hcorrectable⟩, hterms⟩ := hreserved
    refine ⟨r, hr, ?_, ?_, ?_⟩
    · intro hnone
      rw [hnone] at hrisk
      nomatch hrisk
    · have hnot := persistEntryAndProtection_not_rejected hres hp hr
      exact V2IntentState.active_of_live hnot hcorrectable
    · intro hproject
      rw [hproject] at hterms
      simpa using hterms

/-- The facts of a fill hand a reservation over to a position, on the same terms. -/
theorem covered_entry {a : EntryFacts} (hinv : Invariant equity db outside)
    (hc : c ∈ ((PersistOp.entryAndProtection a).apply db).commitments mode) (hout : c.intentId ∉ outside)
    (hdep : c.intentId ∉ (PersistOp.entryAndProtection a).departs db) :
    Covered db outside (.entryAndProtection a) mode c := by
  have heffect := (PersistOp.entryAndProtection a).apply_effect hinv.keyed
  rcases PersistOp.entryAndProtection_cases db a with hsame | ⟨hp, hres⟩
  · rw [hsame] at hc
    exact covered_of_same hc hout
  · -- every commitment of the intent itself needs the reservation
    have hlive : c.intentId = a.intentId → ∃ r, db.intent a.intentId = some r ∧ r.initialRiskUsdt ≠ none ∧
        r.state.active = true ∧ (a.projectPosition = true → r.symbol = a.symbol ∧ r.direction = a.direction ∧
          r.executionMode = a.executionMode) :=
      fun hid => reservation_of_not_departs hres hp (hid ▸ hdep)
    cases commitment_origin hinv.backed heffect hc with
    | kept c₀ hmem hid hsymbol hdirection hrisk =>
      rcases hrisk with hrisk | ⟨hnone, hprice⟩
      · exact covered_of_kept hmem hid hsymbol hdirection hrisk hout
      · obtain ⟨r, hr, hknown, -, -⟩ := hlive hprice
        have hrisk : c₀.risk = r.initialRiskUsdt := by
          rcases mem_commitments.mp hmem with ⟨p, -, rfl⟩ | ⟨r', hr', rfl⟩
          · have hpid : p.intentId = a.intentId := hid.trans hprice
            simp [Database.positionCommitment, hpid, hr]
          · have hget := Table.get_of_mem hinv.keyed.intents (mem_reservingIntents.mp hr').1
            have hrid : r'.intentId = a.intentId := hid.trans hprice
            rw [hrid] at hget
            cases hget.symm.trans hr
            rfl
        exact absurd (hrisk.symm.trans hnone) hknown
    | handedOver p hmem hnew hmode heq hfree =>
      obtain ⟨hproject, hpid, hsymbol, hdirection, hpmode⟩ := hnew
      have hcid : c.intentId = a.intentId := by
        rw [heq]
        exact hpid
      obtain ⟨r, hr, hknown, hactive, hterms⟩ := hlive hcid
      obtain ⟨hrsymbol, hrdirection, hrmode⟩ := hterms hproject
      obtain ⟨hrmem, hrid⟩ := Table.get_some hr
      have hkey : isExitKey r.candidateKey = false := by
        cases hexit : isExitKey r.candidateKey with
        | false => rfl
        | true => exact absurd (hinv.exits r hrmem hexit (by rw [hrid, ← hcid]; exact hout)) hknown
      have hreserving : r ∈ db.reservingIntents mode :=
        reserving_of_free hr ((hrmode.trans hpmode.symm).trans hmode) hactive hkey fun q hq => hpid ▸ hfree q hq
      obtain ⟨r', hr', hkept⟩ := heffect.intent_some hr
      have hrisk : r'.initialRiskUsdt = r.initialRiskUsdt := hkept.risk.resolve_right fun h => hknown h.1
      refine covered_of_kept (mem_commitments.mpr (.inr ⟨r, hreserving, rfl⟩)) (hrid.trans hcid.symm) ?_ ?_ ?_ hout
      · rw [heq]
        exact hrsymbol.trans hsymbol.symm
      · rw [heq]
        exact hrdirection.trans hdirection.symm
      · rw [heq]
        unfold Database.positionCommitment
        simp only [hpid, hr', Option.bind_some]
        exact hrisk
    | reserved r _ hnew _ _ heq =>
      have hcid : c.intentId = a.intentId := by
        rw [heq]
        exact hnew.1
      obtain ⟨r₀, hr₀, -⟩ := hlive hcid
      refine absurd ?_ hnew.2.2
      rw [hr₀]
      rfl
    | revived hid r hr hcid hstate =>
      obtain ⟨r₀, hr₀, -, hactive, -⟩ := hlive hid
      have hget := Table.get_of_mem hinv.keyed.intents hr
      rw [hcid.trans hid] at hget
      cases hget.symm.trans hr₀
      rw [hstate] at hactive
      nomatch hactive

theorem covered {op : PersistOp} (hinv : Invariant equity db outside)
    (hc : c ∈ (op.apply db).commitments mode) (hout : c.intentId ∉ outside) (hdep : c.intentId ∉ op.departs db) :
    Covered db outside op mode c := by
  have heffect := op.apply_effect hinv.keyed
  cases op with
  | reserve a => exact covered_reserve hinv hc hout
  | entryAndProtection a => exact covered_entry hinv hc hout hdep
  | reconcileIntent intentId => exact covered_reconcile hinv hc hout hdep
  | exitIntent a =>
    exact covered_of_quiet hinv.backed heffect (fun _ h => h) (fun _ h => h) (fun _ h => h.2.1) (fun _ h => h) hc hout
  | exitResult a =>
    exact covered_of_quiet hinv.backed heffect (fun _ h => h) (fun _ h => h) (fun _ h => h.2.1) (fun _ h => h) hc hout
  | _ =>
    exact covered_of_quiet hinv.backed heffect (fun _ h => h) (fun _ h => h) (fun _ h => h.elim) (fun _ h => h) hc hout

end Covered

/-! ## One operation -/

section Step

variable {equity : ℚ} {db : Database} {outside : List String}

/-- What an admitted reservation leaves within the budget. -/
theorem reservationBlock_none {a : EntryReservation} (h : reservationBlock db a = none)
    (hop : (PersistOp.reserve a).reservesAgainst equity = true) :
    0 < a.initialRiskUsdt ∧
      ((db.commitments a.executionMode).map amount).sum + a.initialRiskUsdt ≤ maxTotalInitialRiskFraction * equity ∧
      ((db.commitments a.executionMode).map (clusterAmount a.direction)).sum +
        (if inCluster a.symbol then a.initialRiskUsdt else 0) ≤ maxSameDirectionClusterRiskFraction * equity := by
  simp only [PersistOp.reservesAgainst, Bool.and_eq_true, decide_eq_true_eq] at hop
  obtain ⟨⟨hequity, henforced⟩, hmax⟩ := hop
  unfold reservationBlock at h
  simp only at h
  split at h
  · nomatch h
  · split at h
    · nomatch h
    · rw [hequity, henforced, hmax] at h
      simp only [Bool.not_true] at h
      split at h
      · rename_i hblocks
        simp [portfolioRiskBlocks, h] at hblocks
      · rename_i hallows
        have hreason : (evaluatePortfolioRisk equity a.symbol a.direction a.initialRiskUsdt
            (listActiveInitialRiskExposures db a.executionMode).1 maxTotalInitialRiskFraction
            maxSameDirectionClusterRiskFraction maxOpenPositionsDefault).reasonCode = none := by
          simpa [portfolioRiskBlocks] using hallows
        obtain ⟨-, hrisk, -, htotal, hcluster⟩ := evaluatePortfolioRisk_allowed hreason
        unfold listActiveInitialRiskExposures at htotal hcluster
        rw [sumRisk_exposures] at htotal
        rw [sumRisk_clusterExposures] at hcluster
        exact ⟨hrisk, htotal, hcluster⟩

/-- An operation adds at most the weight of what the gate admitted. -/
theorem sum_inside_step {w : Commitment → ℚ} (hw : ∀ c, 0 ≤ w c)
    (hterms : ∀ c c₀ : Commitment, c₀.symbol = c.symbol → c₀.direction = c.direction → c.risk = c₀.risk → w c = w c₀)
    (hinv : Invariant equity db outside) (op : PersistOp) (mode : V2ExecutionMode) :
    (((op.apply db).inside (op.departs db ++ outside) mode).map w).sum ≤
      ((db.inside outside mode).map w).sum + ((admitted db mode op).map w).sum := by
  have heffect := op.apply_effect hinv.keyed
  rw [← List.sum_append, ← List.map_append]
  refine Budget.sum_le_of_covered Commitment.intentId ?_ (fun c _ => hw c) ?_
  · exact (heffect.keyed.commitments_nodup mode).sublist (List.filter_sublist.map _)
  · intro c hc
    obtain ⟨hmem, hout⟩ := mem_inside.mp hc
    rw [List.mem_append, not_or] at hout
    obtain ⟨c₀, hc₀, hid, hsymbol, hdirection, hrisk⟩ := covered hinv hmem hout.2 hout.1
    exact ⟨c₀, hc₀, hid, le_of_eq (hterms c c₀ hsymbol hdirection hrisk)⟩

/-- What is inside weighs at most as much as everything. -/
theorem sum_inside_le {w : Commitment → ℚ} (hw : ∀ c, 0 ≤ w c) (db : Database) (outside : List String)
    (mode : V2ExecutionMode) : ((db.inside outside mode).map w).sum ≤ ((db.commitments mode).map w).sum := by
  refine List.Sublist.sum_le_sum (List.filter_sublist.map w) fun x hx => ?_
  obtain ⟨c, -, rfl⟩ := List.mem_map.mp hx
  exact hw c

theorem amount_terms (c c₀ : Commitment) (_ : c₀.symbol = c.symbol) (_ : c₀.direction = c.direction)
    (hrisk : c.risk = c₀.risk) : amount c = amount c₀ := by
  unfold amount
  rw [hrisk]

theorem clusterAmount_terms (direction : Direction) (c c₀ : Commitment) (hsymbol : c₀.symbol = c.symbol)
    (hdirection : c₀.direction = c.direction) (hrisk : c.risk = c₀.risk) :
    clusterAmount direction c = clusterAmount direction c₀ := by
  unfold clusterAmount amount
  rw [hsymbol, hdirection, hrisk]

theorem amount_admitted {a : EntryReservation} (h : 0 < a.initialRiskUsdt) :
    amount (a.intentRow (some a.initialRiskUsdt)).commitment = a.initialRiskUsdt := by
  simp [amount, IntentRow.commitment, EntryIdentity.intentRow, knownRisk, Option.filter, h]

theorem total_step (hinv : Invariant equity db outside) {op : PersistOp} (hop : op.reservesAgainst equity = true)
    (mode : V2ExecutionMode) :
    (((op.apply db).inside (op.departs db ++ outside) mode).map amount).sum ≤ maxTotalInitialRiskFraction * equity := by
  have hstep := sum_inside_step amount_nonneg amount_terms hinv op mode
  have hbefore := hinv.total mode
  have hsub := sum_inside_le amount_nonneg db outside mode
  cases op with
  | reserve a =>
    by_cases hadmitted : reservationBlock db a = none ∧ a.executionMode = mode
    · obtain ⟨hrisk, htotal, -⟩ := reservationBlock_none hadmitted.1 hop
      simp only [admitted, hadmitted, and_self, if_true, List.map_singleton, List.sum_singleton,
        amount_admitted hrisk] at hstep
      rw [hadmitted.2] at htotal
      linarith
    · simp only [admitted, hadmitted, if_false, List.map_nil, List.sum_nil, add_zero] at hstep
      exact hstep.trans hbefore
  | _ =>
    simp only [admitted, List.map_nil, List.sum_nil, add_zero] at hstep
    exact hstep.trans hbefore

theorem cluster_step (hinv : Invariant equity db outside) {op : PersistOp} (hop : op.reservesAgainst equity = true)
    (mode : V2ExecutionMode) (direction : Direction) :
    (((op.apply db).inside (op.departs db ++ outside) mode).map (clusterAmount direction)).sum ≤
      maxSameDirectionClusterRiskFraction * equity := by
  have hstep := sum_inside_step (clusterAmount_nonneg direction) (clusterAmount_terms direction) hinv op mode
  have hbefore := hinv.cluster mode direction
  have hsub := sum_inside_le (clusterAmount_nonneg direction) db outside mode
  cases op with
  | reserve a =>
    by_cases hadmitted : reservationBlock db a = none ∧ a.executionMode = mode
    · obtain ⟨hrisk, -, hcluster⟩ := reservationBlock_none hadmitted.1 hop
      simp only [admitted, hadmitted, and_self, if_true, List.map_singleton, List.sum_singleton] at hstep
      by_cases hdirection : a.direction = direction
      · rw [hadmitted.2, hdirection] at hcluster
        have hnew : clusterAmount direction (a.intentRow (some a.initialRiskUsdt)).commitment =
            if inCluster a.symbol then a.initialRiskUsdt else 0 := by
          unfold clusterAmount
          rw [amount_admitted hrisk]
          simp [IntentRow.commitment, EntryIdentity.intentRow, hdirection]
        rw [hnew] at hstep
        linarith
      · have hnew : clusterAmount direction (a.intentRow (some a.initialRiskUsdt)).commitment = 0 := by
          simp [clusterAmount, IntentRow.commitment, EntryIdentity.intentRow, hdirection]
        rw [hnew, add_zero] at hstep
        exact hstep.trans hbefore
    · simp only [admitted, hadmitted, if_false, List.map_nil, List.sum_nil, add_zero] at hstep
      exact hstep.trans hbefore
  | _ =>
    simp only [admitted, List.map_nil, List.sum_nil, add_zero] at hstep
    exact hstep.trans hbefore

/-- An intent under the key of an exit has no risk, unless it is outside. -/
theorem exits_step (hinv : Invariant equity db outside) (op : PersistOp) :
    ∀ r ∈ (op.apply db).intents, isExitKey r.candidateKey = true → r.intentId ∉ op.departs db ++ outside →
      r.initialRiskUsdt = none := by
  intro r' hr' hkey hout
  rw [List.mem_append, not_or] at hout
  have heffect := op.apply_effect hinv.keyed
  -- what is asked of the rows that were there before
  have hold : r' ∈ db.intents → r'.initialRiskUsdt = none := fun hmem => hinv.exits r' hmem hkey hout.2
  rcases heffect.intents.origin (fun _ _ hkept => hkept.id) heffect.keyed.intents hr' with ⟨r, hr, hkept⟩ | ⟨hnew, hfresh⟩
  · have hnone : r.initialRiskUsdt = none := hinv.exits r hr (hkept.key ▸ hkey) (hkept.id ▸ hout.2)
    rcases hkept.risk with hrisk | ⟨-, hprice⟩
    · rw [hrisk, hnone]
    · cases op with
      | entryAndProtection a =>
        have hid : r'.intentId = a.intentId := hkept.id.trans hprice
        rcases PersistOp.entryAndProtection_cases db a with hsame | ⟨hp, hres⟩
        · exact hold (hsame ▸ hr')
        · obtain ⟨r₀, hr₀, hknown, -⟩ := reservation_of_not_departs hres hp (hid ▸ hout.1)
          have hget := Table.get_of_mem hinv.keyed.intents hr
          rw [show r.intentId = a.intentId from hprice] at hget
          cases hget.symm.trans hr₀
          exact absurd hnone hknown
      | _ => exact hprice.elim
  · cases op with
    | reserve a =>
      rcases PersistOp.reserve_cases db a with hsame | ⟨-, db', hres⟩
      · exact hold (hsame ▸ hr')
      · have hid : r'.intentId = a.intentId := hnew.1.id
        have hmissing : db.intent a.intentId = none := Table.get_none.mpr fun q hq => hid ▸ hfresh q hq
        have hsameKey : r'.candidateKey = a.candidateKey := hnew.1.key
        have hexit : isExitKey a.candidateKey = true := hsameKey ▸ hkey
        refine absurd ?_ hout.1
        simp only [PersistOp.departs, hres, hexit, hmissing, Option.isNone_none, Bool.and_self, if_true, hid,
          List.mem_singleton]
    | entryAndProtection a =>
      have hid : r'.intentId = a.intentId := hnew.1
      have hmissing : db.intent a.intentId = none := Table.get_none.mpr fun q hq => hid ▸ hfresh q hq
      rcases PersistOp.entryAndProtection_cases db a with hsame | ⟨hp, hres⟩
      · exact hold (hsame ▸ hr')
      · obtain ⟨r₀, hr₀, -⟩ := reservation_of_not_departs hres hp (hid ▸ hout.1)
        rw [hmissing] at hr₀
        nomatch hr₀
    | exitIntent a => exact hnew.2.2
    | exitResult a => exact hnew.2.2
    | _ => exact hnew.elim

theorem invariant_step (hinv : Invariant equity db outside) {op : PersistOp} (hop : op.reservesAgainst equity = true) :
    Invariant equity (op.apply db) (op.departs db ++ outside) where
  keyed := (op.apply_effect hinv.keyed).keyed
  backed := PersistOp.apply_backed hinv.keyed hinv.backed op
  exits := exits_step hinv op
  total := total_step hinv hop
  cluster := cluster_step hinv hop

end Step

/-! ## Whole runs -/

/-- What is outside does not depend on the order in which it is listed. -/
theorem inside_congr {db : Database} {outside outside' : List String} (h : ∀ id, id ∈ outside ↔ id ∈ outside')
    (mode : V2ExecutionMode) : db.inside outside mode = db.inside outside' mode := by
  unfold Database.inside
  refine List.filter_congr fun c _ => ?_
  exact decide_eq_decide.mpr (not_congr (h c.intentId))

theorem invariant_run {equity : ℚ} {ops : List PersistOp} (hops : ∀ op ∈ ops, op.reservesAgainst equity = true)
    {db : Database} {outside : List String} (hinv : Invariant equity db outside) :
    ∃ outside', (∀ id, id ∈ outside' ↔ id ∈ outside ∨ id ∈ outsideBudget db ops) ∧
      Invariant equity (runOps db ops) outside' := by
  induction ops generalizing db outside with
  | nil => exact ⟨outside, fun id => by simp [outsideBudget], hinv⟩
  | cons op ops ih =>
    obtain ⟨outside', hmem, hrun⟩ :=
      ih (fun o ho => hops o (List.mem_cons_of_mem _ ho)) (invariant_step hinv (hops op List.mem_cons_self))
    refine ⟨outside', fun id => ?_, hrun⟩
    rw [hmem id, mem_outsideBudget_cons, List.mem_append]
    tauto

theorem invariant_empty {equity : ℚ} (hE : 0 < equity) {db : Database} (h : db.Empty) : Invariant equity db [] := by
  obtain ⟨-, -, hintents, -, -, hpositions, -⟩ := h
  have hcommitments : ∀ mode, db.inside [] mode = [] := by
    intro mode
    simp [Database.inside, Database.commitments, Database.activePositions, Database.reservingIntents, hintents, hpositions]
  refine ⟨⟨by simp [hintents], by simp [hpositions], by simp [hpositions]⟩, ?_, ?_, ?_, ?_⟩
  · intro p hp
    rw [hpositions] at hp
    cases hp
  · intro r hr
    rw [hintents] at hr
    cases hr
  · intro mode
    rw [hcommitments mode]
    exact mul_nonneg (by norm_num [maxTotalInitialRiskFraction]) hE.le
  · intro mode direction
    rw [hcommitments mode]
    exact mul_nonneg (by norm_num [maxSameDirectionClusterRiskFraction]) hE.le

end BudgetAux

/-- The entry `name` on a symbol, under a candidate key. -/
def sampleIdentity (name symbol key : String) : EntryIdentity :=
  { cycleId := "cycle-" ++ name, decisionId := none, intentId := "intent-" ++ name, symbol, direction := .long,
    candidateKey := key, candidateType := .primary, executionMode := .binanceTestnet, fencingToken := "token-" ++ name }

/-- Its reservation, against an equity of ten thousand. -/
def sampleReservation (name symbol : String) (risk : ℚ) (key : String := "breakout") : PersistOp :=
  .reserve { sampleIdentity name symbol key with initialRiskUsdt := risk, accountEquity := some 10000 }

/-- Its confirmed fill of one unit at a hundred. -/
def sampleFill (name : String) : EntryExecutionResult :=
  { status := .filled, intentState := .filled, clientOrderId := "A2E-" ++ name, exchangeOrderId := some ("order-" ++ name),
    tradeIds := ["trade-" ++ name], filledQuantity := 1, averageFillPrice := some 100, requestedQuantity := 1 }

/-- The facts of the fill. -/
def sampleFacts (name symbol : String) (risk : ℚ) (key : String := "breakout") : EntryFacts :=
  { sampleIdentity name symbol key with
    leverage := 5, entryResult := sampleFill name, positionId := "position-" ++ name, protectionResult := none,
    stopLossPrice := none, takeProfitPrice := none, stopClientOrderId := none, tpClientOrderId := none,
    initialRiskUsdt := some risk }

/-- Two reservations, and the fill of the first. -/
def filledRun : List PersistOp :=
  [sampleReservation "a" "AAA/USDT" 70, sampleReservation "b" "BTC/USDT" 50, .entryAndProtection (sampleFacts "a" "AAA/USDT" 70)]

/-- A reservation is cancelled, another takes its place, and the fill of the first arrives. -/
def revivedRun : List PersistOp :=
  [sampleReservation "a" "AAA/USDT" 80, .transitionIntent "intent-a" .exchangeSubmitting .cancelled "IntentCancelled",
    sampleReservation "b" "BBB/USDT" 80, .entryAndProtection (sampleFacts "a" "AAA/USDT" 80)]

/-- The facts of an entry that was never reserved. -/
def unreservedRun : List PersistOp := [.entryAndProtection (sampleFacts "a" "AAA/USDT" 200)]

/-- A reservation outside the cluster is projected under a symbol of the cluster. -/
def relabelledRun : List PersistOp :=
  [sampleReservation "a" "AAA/USDT" 70, sampleReservation "b" "BTC/USDT" 50, .entryAndProtection (sampleFacts "a" "ETH/USDT" 70)]

/-- A reservation under the key of an exit is not counted until it is filled. -/
def exitKeyRun : List PersistOp :=
  [sampleReservation "a" "AAA/USDT" 100 "exit:a", sampleReservation "b" "BBB/USDT" 100,
    .entryAndProtection (sampleFacts "a" "AAA/USDT" 100 "exit:a")]

/-- A run of checked reservations ends with more exposure than the budget. -/
def Overdraws (ops : List PersistOp) : Prop :=
  (∀ op ∈ ops, op.reservesAgainst 10000 = true) ∧
    ¬WithinBudget 10000 (listActiveInitialRiskExposures (runOps {} ops) .binanceTestnet).1

end TradingPlatform
