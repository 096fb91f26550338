import TradingPlatform.Lemmas.Frames

/-!
# What the operations do to intents and positions

Every operation is described once, by its effect on the rows that hold the committed risk: an old row keeps its identity and
moves only as its scope allows, and a new row is one the scope names. The invariants of runs are derived from the effects and
never unfold an operation.
-/

namespace TradingPlatform

variable {db db' : Database} {a : EntryFacts}

/-- No two intents share an id, and no two positions an id or an intent: what the unique constraints keep. -/
structure Database.Keyed (db : Database) : Prop where
  intents : (db.intents.map IntentRow.intentId).Nodup
  positions : (db.positions.map PositionRow.positionId).Nodup
  positionIntents : (db.positions.map PositionRow.intentId).Nodup

/-- What an operation may do: the intents it may fill, bring back from a terminal state or give a risk, and the rows it may
add. -/
structure Scope where
  fills : String → Prop := fun _ => False
  revives : String → Prop := fun _ => False
  prices : String → Prop := fun _ => False
  newIntent : IntentRow → Prop := fun _ => False
  newPosition : PositionRow → Prop := fun _ => False

/-- What became of an intent. -/
structure IntentKept (s : Scope) (r r' : IntentRow) : Prop where
  id : r'.intentId = r.intentId
  mode : r'.executionMode = r.executionMode
  symbol : r'.symbol = r.symbol
  direction : r'.direction = r.direction
  key : r'.candidateKey = r.candidateKey
  risk : r'.initialRiskUsdt = r.initialRiskUsdt ∨ (r.initialRiskUsdt = none ∧ s.prices r.intentId)
  active : r'.state.active = true → r.state.active = true ∨ s.revives r.intentId
  filled : r'.state = .filled → r.state = .filled ∨ s.fills r.intentId
  settled : r.state = .filled ∨ r.state = .rejected → r'.state = r.state

/-- What became of a position. -/
structure PositionKept (p p' : PositionRow) : Prop where
  id : p'.positionId = p.positionId
  intent : p'.intentId = p.intentId
  order : p'.orderRecordId = p.orderRecordId
  symbol : p'.symbol = p.symbol
  direction : p'.direction = p.direction
  mode : p'.executionMode = p.executionMode
  active : p'.state.active = true → p.state.active = true

/-- The effect of an operation, within its scope. -/
structure Effect (s : Scope) (db db' : Database) : Prop where
  intents : Table.Evolves (IntentKept s) s.newIntent db.intents db'.intents
  positions : Table.Evolves PositionKept s.newPosition db.positions db'.positions
  keyed : db'.Keyed

/-- The scope allows what another one does. -/
structure Scope.Within (s t : Scope) : Prop where
  fills : ∀ id, s.fills id → t.fills id
  revives : ∀ id, s.revives id → t.revives id
  prices : ∀ id, s.prices id → t.prices id
  newIntent : ∀ r, s.newIntent r → t.newIntent r
  newPosition : ∀ p, s.newPosition p → t.newPosition p

/-- The rows a scope names are named after they moved. -/
structure Scope.Closed (s : Scope) : Prop where
  newIntent : ∀ r r', s.newIntent r → IntentKept s r r' → s.newIntent r'
  newPosition : ∀ p p', s.newPosition p → PositionKept p p' → s.newPosition p'

section

variable {s t : Scope} {db db' db'' : Database}

/-- Outside the scope of prices an intent keeps its risk. -/
theorem IntentKept.risk_eq {r r' : IntentRow} (h : IntentKept s r r') (hprices : ¬s.prices r.intentId) :
    r'.initialRiskUsdt = r.initialRiskUsdt := by
  rcases h.risk with hrisk | hrisk
  · exact hrisk
  · exact absurd hrisk.2 hprices

theorem IntentKept.refl (r : IntentRow) : IntentKept s r r :=
  ⟨rfl, rfl, rfl, rfl, rfl, .inl rfl, .inl, .inl, fun _ => rfl⟩

theorem IntentKept.trans {r r' r'' : IntentRow} (h : IntentKept s r r') (h' : IntentKept s r' r'') : IntentKept s r r'' where
  id := h'.id.trans h.id
  mode := h'.mode.trans h.mode
  symbol := h'.symbol.trans h.symbol
  direction := h'.direction.trans h.direction
  key := h'.key.trans h.key
  risk := by
    rcases h'.risk with h2 | ⟨hnone, hprice⟩
    · rw [h2]
      exact h.risk
    · rw [h.id] at hprice
      rcases h.risk with h1 | h1
      · exact .inr ⟨h1 ▸ hnone, hprice⟩
      · exact .inr h1
  active := fun ha => by
    rcases h'.active ha with h2 | hrev
    · exact h.active h2
    · exact .inr (h.id ▸ hrev)
  filled := fun hf => by
    rcases h'.filled hf with h2 | hfill
    · exact h.filled h2
    · exact .inr (h.id ▸ hfill)
  settled := fun hs => by
    have hfirst := h.settled hs
    exact (h'.settled (hfirst.symm ▸ hs)).trans hfirst

theorem IntentKept.mono (hst : s.Within t) {r r' : IntentRow} (h : IntentKept s r r') : IntentKept t r r' :=
  { h with
    risk := h.risk.imp_right fun hr => ⟨hr.1, hst.prices _ hr.2⟩
    active := fun ha => (h.active ha).imp_right (hst.revives _)
    filled := fun hf => (h.filled hf).imp_right (hst.fills _) }

theorem PositionKept.refl (p : PositionRow) : PositionKept p p := ⟨rfl, rfl, rfl, rfl, rfl, rfl, fun h => h⟩

theorem PositionKept.trans {p p' p'' : PositionRow} (h : PositionKept p p') (h' : PositionKept p' p'') : PositionKept p p'' :=
  ⟨h'.id.trans h.id, h'.intent.trans h.intent, h'.order.trans h.order, h'.symbol.trans h.symbol,
    h'.direction.trans h.direction, h'.mode.trans h.mode, fun ha => h.active (h'.active ha)⟩

theorem Effect.trans (hs : s.Closed) (h : Effect s db db') (h' : Effect s db' db'') : Effect s db db'' where
  intents := Table.Evolves.trans (fun _ _ _ => IntentKept.trans) hs.newIntent h.intents h'.intents
  positions := Table.Evolves.trans (fun _ _ _ => PositionKept.trans) hs.newPosition h.positions h'.positions
  keyed := h'.keyed

theorem Effect.mono (h : Effect s db db') (hst : s.Within t) : Effect t db db' where
  intents := h.intents.mono (fun _ _ => IntentKept.mono hst) hst.newIntent
  positions := h.positions.mono (fun _ _ hp => hp) hst.newPosition
  keyed := h.keyed

/-- An operation that leaves both tables alone. -/
theorem Effect.of_same (hk : db.Keyed) (hi : db'.intents = db.intents) (hp : db'.positions = db.positions) :
    Effect s db db' where
  intents := hi ▸ Table.Evolves.refl IntentKept.refl _
  positions := hp ▸ Table.Evolves.refl PositionKept.refl _
  keyed := ⟨hi ▸ hk.intents, hp ▸ hk.positions, hp ▸ hk.positionIntents⟩

end

/-! ## Single changes -/

/-- A legal transition ends in an active state only if it starts in one. -/
theorem V2IntentState.active_of_legal {current next : V2IntentState}
    (h : current = next ∨ next ∈ legalIntentTransitions current) (ha : next.active = true) : current.active = true := by
  rcases h with rfl | h
  · exact ha
  · cases current <;> simp_all [legalIntentTransitions, V2IntentState.active]

/-- A legal transition leaves a filled or rejected intent as it is. -/
theorem V2IntentState.settled_of_legal {current next : V2IntentState}
    (h : current = next ∨ next ∈ legalIntentTransitions current) (hs : current = .filled ∨ current = .rejected) :
    next = current := by
  refine intent_terminal_of_legal h ?_
  rcases hs with rfl | rfl <;> rfl

theorem V2PositionState.active_of_legal {current next : V2PositionState}
    (h : current = next ∨ next ∈ legalPositionTransitions current) (ha : next.active = true) : current.active = true := by
  rcases h with rfl | h
  · exact ha
  · cases current <;> simp_all [legalPositionTransitions, V2PositionState.active]

section

variable {s : Scope} {db db' : Database}

/-- The row of an intent is changed. -/
theorem Effect.of_modifyIntent (hk : db.Keyed) {id : String} {f : IntentRow → IntentRow} {r : IntentRow}
    (hr : db.intent id = some r) (hi : db'.intents = Table.modify IntentRow.intentId db.intents id f)
    (hp : db'.positions = db.positions) (hid : ∀ r, (f r).intentId = r.intentId) (hf : IntentKept s r (f r)) :
    Effect s db db' where
  intents := by
    rw [hi]
    refine Table.evolves_modify IntentKept.refl fun r' hr' hr'id => ?_
    have hget := Table.get_of_mem hk.intents hr'
    rw [hr'id] at hget
    cases hget.symm.trans hr
    exact hf
  positions := hp ▸ Table.Evolves.refl PositionKept.refl _
  keyed := by
    refine ⟨?_, hp ▸ hk.positions, hp ▸ hk.positionIntents⟩
    rw [hi, Table.map_modify hid]
    exact hk.intents

/-- The row of a position is changed. -/
theorem Effect.of_modifyPosition (hk : db.Keyed) {id : String} {f : PositionRow → PositionRow} {p : PositionRow}
    (hp : db.position id = some p) (hpos : db'.positions = Table.modify PositionRow.positionId db.positions id f)
    (hi : db'.intents = db.intents) (hid : ∀ q, (f q).positionId = q.positionId ∧ (f q).intentId = q.intentId)
    (hf : PositionKept p (f p)) : Effect s db db' where
  intents := hi ▸ Table.Evolves.refl IntentKept.refl _
  positions := by
    rw [hpos]
    refine Table.evolves_modify PositionKept.refl fun q hq hqid => ?_
    have hget := Table.get_of_mem hk.positions hq
    rw [hqid] at hget
    cases hget.symm.trans hp
    exact hf
  keyed := by
    refine ⟨hi ▸ hk.intents, ?_, ?_⟩
    · rw [hpos, Table.map_modify fun q => (hid q).1]
      exact hk.positions
    · rw [hpos, Table.map_modify fun q => (hid q).2]
      exact hk.positionIntents

end

/-- A legal transition of one intent. -/
theorem transitionIntent_effect {db db' : Database} {id eventType : String} {current next : V2IntentState} (hk : db.Keyed)
    (h : transitionIntent db id current next eventType = .ok db') :
    Effect { fills := fun i => i = id ∧ next = .filled } db db' := by
  obtain ⟨r, hr, rfl, hlegal, rfl⟩ := transitionIntent_eq_ok.mp h
  refine Effect.of_modifyIntent hk hr rfl rfl (fun _ => rfl) ⟨rfl, rfl, rfl, rfl, rfl, .inl rfl, ?_, ?_, ?_⟩
  · intro ha
    exact .inl (V2IntentState.active_of_legal hlegal ha)
  · intro hf
    exact .inr ⟨(Table.get_some hr).2, hf⟩
  · exact V2IntentState.settled_of_legal hlegal

/-- A legal transition of one position. -/
theorem transitionPosition_effect {id eventType : String} {current next : V2PositionState}
    (hk : db.Keyed) (h : transitionPosition db id current next eventType = .ok db') : Effect {} db db' := by
  obtain ⟨p, hp, rfl, hlegal, rfl⟩ := transitionPosition_eq_ok.mp h
  refine Effect.of_modifyPosition hk hp rfl rfl (fun _ => ⟨rfl, rfl⟩) ⟨rfl, rfl, rfl, rfl, rfl, rfl, fun ha => ?_⟩
  exact V2PositionState.active_of_legal hlegal ha

/-! ## Operations that leave intents and positions alone -/

/-- The two tables are the same. -/
structure SameBook (db db' : Database) : Prop where
  intents : db'.intents = db.intents
  positions : db'.positions = db.positions

theorem SameBook.refl (db : Database) : SameBook db db := ⟨rfl, rfl⟩

theorem SameBook.trans {db db' db'' : Database} (h : SameBook db db') (h' : SameBook db' db'') : SameBook db db'' :=
  ⟨h'.intents.trans h.intents, h'.positions.trans h.positions⟩

theorem SameBook.effect {s : Scope} (h : SameBook db db') (hk : db.Keyed) : Effect s db db' :=
  Effect.of_same hk h.intents h.positions

/-- An operation that names neither table leaves both alone. -/
theorem Touches.book {tables : List TableName} (h : Touches tables db db')
    (hn : TableName.intents ∉ tables ∧ TableName.positions ∉ tables) : SameBook db db' :=
  ⟨h.intents hn.1, h.positions hn.2⟩

/-! ## Operations on an entry -/

/-- The rows say the same about the entry they were reserved for. -/
structure IntentRow.SameTerms (r r' : IntentRow) : Prop where
  id : r'.intentId = r.intentId
  mode : r'.executionMode = r.executionMode
  symbol : r'.symbol = r.symbol
  direction : r'.direction = r.direction
  key : r'.candidateKey = r.candidateKey
  risk : r'.initialRiskUsdt = r.initialRiskUsdt

theorem Scope.quiet_within (t : Scope) : Scope.Within {} t :=
  ⟨fun _ h => h.elim, fun _ h => h.elim, fun _ h => h.elim, fun _ h => h.elim, fun _ h => h.elim⟩

theorem Scope.quiet_closed : Scope.Closed {} := ⟨fun _ _ h _ => h, fun _ _ h _ => h⟩

/-- An operation that only moves rows along is within every scope. -/
theorem Effect.quiet {s : Scope} (h : Effect {} db db') : Effect s db db' :=
  h.mono (Scope.quiet_within s)

/-- A transition to a state other than filled only moves the intent along. -/
theorem transitionIntent_quiet {id eventType : String} {current next : V2IntentState} (hk : db.Keyed)
    (h : transitionIntent db id current next eventType = .ok db') (hnext : next ≠ .filled) : Effect {} db db' := by
  refine (transitionIntent_effect hk h).mono ⟨fun _ hf => ?_, fun _ hr => hr, fun _ hr => hr, fun _ hr => hr, fun _ hp => hp⟩
  exact hnext hf.2

/-- What `createSubmittingIntent` adds. -/
def createdScope (row : IntentRow) : Scope := { newIntent := fun r => row.SameTerms r ∧ r.state ≠ .filled }

theorem createdScope_closed (row : IntentRow) : (createdScope row).Closed where
  newIntent := fun r r' hr hk => by
    refine ⟨⟨hk.id.trans hr.1.id, hk.mode.trans hr.1.mode, hk.symbol.trans hr.1.symbol,
      hk.direction.trans hr.1.direction, hk.key.trans hr.1.key, (hk.risk_eq fun h => h).trans hr.1.risk⟩, ?_⟩
    intro hfilled
    rcases hk.filled hfilled with h | h
    · exact hr.2 h
    · exact h.elim
  newPosition := fun _ _ h => h.elim

theorem createIntent_effect {row : IntentRow} (hk : db.Keyed) (hstate : row.state ≠ .filled)
    (h : createIntent db row = .ok db') : Effect (createdScope row) db db' := by
  obtain ⟨-, hfresh, rfl⟩ := createIntent_eq_ok.mp h
  refine ⟨Table.evolves_insert IntentKept.refl ⟨⟨rfl, rfl, rfl, rfl, rfl, rfl⟩, hstate⟩,
    Table.Evolves.refl PositionKept.refl _, ?_, hk.positions, hk.positionIntents⟩
  rw [List.map_append, List.map_singleton, ← List.concat_eq_append]
  refine List.Nodup.concat (fun hmem => ?_) hk.intents
  obtain ⟨r, hr, hid⟩ := List.mem_map.mp hmem
  exact hfresh r hr hid

theorem createSubmittingIntent_effect {db db' : Database} {row : IntentRow} {eventType : String} (hk : db.Keyed)
    (h : createSubmittingIntent db row eventType = .ok db') (hstate : row.state ≠ .filled) :
    Effect (createdScope row) db db' := by
  unfold createSubmittingIntent at h
  obtain ⟨db₁, hcreate, h⟩ := Loops.bind_eq_ok.mp h
  have hfirst := createIntent_effect hk hstate hcreate
  exact hfirst.trans (createdScope_closed row) (transitionIntent_quiet hfirst.keyed h (by decide)).quiet

/-- What a reservation adds. -/
def EntryReservation.scope (a : EntryReservation) : Scope := createdScope (a.intentRow (some a.initialRiskUsdt))

theorem persistEntryIntentBeforeSubmission_effect {a : EntryReservation} {reason : Option String}
    (hk : db.Keyed) (h : persistEntryIntentBeforeSubmission db a = .ok (reason, db')) : Effect a.scope db db' := by
  unfold persistEntryIntentBeforeSubmission at h
  split at h
  · nomatch h
  · split at h
    · cases h
      exact (SameBook.refl db).effect hk
    · obtain ⟨db₁, hcycle, h⟩ := Loops.bind_eq_ok.mp h
      have hsame := ((ensureCycle_touches hcycle).book (by decide)).trans
          ((ensureDecision_touches db₁ a.decisionId).book (by decide))
      have hframe : Effect a.scope db _ := hsame.effect hk
      simp only at h
      split at h
      · cases h
        exact hframe
      · obtain ⟨db₂, hcreate, h⟩ := Loops.bind_eq_ok.mp h
        cases h
        exact hframe.trans (createdScope_closed _)
          (createSubmittingIntent_effect hframe.keyed hcreate fun hfilled => nomatch hfilled)

theorem acknowledgeIntent_effect {intentId eventType : String} {current : V2IntentState} (hk : db.Keyed)
    (h : acknowledgeIntent db intentId current eventType = .ok db') : Effect {} db db' := by
  unfold acknowledgeIntent at h
  split at h
  · exact transitionIntent_quiet hk h (by decide)
  · cases h
    exact (SameBook.refl db).effect hk

theorem persistEntrySubmissionResult_effect {intentId : String} {leverage : ℤ} {result : EntryExecutionResult} (hk : db.Keyed)
    (h : persistEntrySubmissionResult db intentId leverage result = .ok db') : Effect {} db db' := by
  unfold persistEntrySubmissionResult at h
  split at h
  · nomatch h
  · split at h
    · exact transitionIntent_quiet hk h (by decide)
    · split at h
      · obtain ⟨⟨orderRecordId, db₁⟩, horder, h⟩ := Loops.bind_eq_ok.mp h
        obtain ⟨db₂, hreceipt, h⟩ := Loops.bind_eq_ok.mp h
        obtain ⟨db₃, hfills, h⟩ := Loops.bind_eq_ok.mp h
        have hsame := (((ensureOrder_touches horder).book (by decide)).trans
            ((saveExchangeOrderReceipt_touches hreceipt).book (by decide))).trans
          ((saveGuardedFills_touches hfills).book (by decide))
        have hframe : Effect {} db db₃ := hsame.effect hk
        exact hframe.trans Scope.quiet_closed (acknowledgeIntent_effect hframe.keyed h)
      · exact transitionIntent_quiet hk h (by decide)
    · exact transitionIntent_quiet hk h (by decide)
    · split at h
      · obtain ⟨⟨orderRecordId, db₁⟩, horder, h⟩ := Loops.bind_eq_ok.mp h
        obtain ⟨db₂, hreceipt, h⟩ := Loops.bind_eq_ok.mp h
        have hframe : Effect {} db db₂ :=
          (((ensureOrder_touches horder).book (by decide)).trans
              ((saveExchangeOrderReceipt_touches hreceipt).book (by decide))).effect hk
        exact hframe.trans Scope.quiet_closed (acknowledgeIntent_effect hframe.keyed h)
      · cases h
        exact (SameBook.refl db).effect hk

/-! ## The facts of an entry -/

/-- What `persistEntryAndProtection` may do: its intent is filled, brought back, given a risk or created, and a position of the
facts' symbol, direction and mode may be added for it. -/
def EntryFacts.scope (a : EntryFacts) (known : Prop) : Scope where
  fills := fun id => id = a.intentId
  revives := fun id => id = a.intentId
  prices := fun id => id = a.intentId
  newIntent := fun r => r.intentId = a.intentId ∧ r.executionMode = a.executionMode ∧ ¬known
  newPosition := fun p => a.projectPosition = true ∧ p.intentId = a.intentId ∧ p.symbol = a.symbol ∧
    p.direction = a.direction ∧ p.executionMode = a.executionMode

theorem EntryFacts.scope_closed (a : EntryFacts) (known : Prop) : (a.scope known).Closed where
  newIntent := fun _ _ hr hk => ⟨hk.id.trans hr.1, hk.mode.trans hr.2.1, hr.2.2⟩
  newPosition := fun _ _ hp hk =>
    ⟨hp.1, hk.intent.trans hp.2.1, hk.symbol.trans hp.2.2.1, hk.direction.trans hp.2.2.2.1, hk.mode.trans hp.2.2.2.2⟩

theorem SameBook.intent (h : SameBook db db') (id : String) : db'.intent id = db.intent id := by
  unfold Database.intent
  rw [h.intents]

theorem ensureEntryIntent_effect (hk : db.Keyed)
    (h : ensureEntryIntent db a = .ok db') : Effect (a.scope (db.intent a.intentId).isSome) db db' := by
  unfold ensureEntryIntent at h
  split at h
  · rename_i hnone
    refine (createSubmittingIntent_effect hk h fun hf => nomatch hf).mono ⟨fun _ hf => hf.elim, fun _ hr => hr.elim,
      fun _ hr => hr.elim, ?_, fun _ hp => hp.elim⟩
    intro r hr
    exact ⟨hr.1.id, hr.1.mode, by simp [hnone]⟩
  · rename_i r hr
    split at h
    · rename_i risk hrisk hrec
      cases h
      refine Effect.of_modifyIntent hk hr rfl rfl (fun _ => rfl) ⟨rfl, rfl, rfl, rfl, rfl, ?_, .inl, .inl, fun _ => rfl⟩
      exact .inr ⟨hrisk, (Table.get_some hr).2⟩
    · cases h
      exact (SameBook.refl db).effect hk

/-- An intent that a fill reconciles was acknowledged, filled, or a terminal guess that the fill corrects. -/
theorem reconcileIntentFromConfirmedFill_ok {db db' : Database} {id : String}
    (h : reconcileIntentFromConfirmedFill db id = .ok db') :
    ∃ r, db.intent id = some r ∧
      (r.state = .filled ∨ r.state = .exchangeAcknowledged ∨ r.state = .cancelled ∨ r.state = .expired) ∧
      (db' = db ∨ db' = (db.modifyIntent id fun r => { r with state := .filled, version := r.version + 1 }).appendEvent id
        "INTENT" "ExchangeFillReconciled"
        (statePayload [] r.state.value V2IntentState.filled.value (r.version + 1))) := by
  unfold reconcileIntentFromConfirmedFill at h
  split at h
  · nomatch h
  · rename_i r hr
    split at h
    · nomatch h
    · split at h
      · nomatch h
      · split at h
        · nomatch h
        · split at h
          · rename_i hfilled
            exact ⟨r, hr, .inl hfilled, .inl (Except.ok.inj h).symm⟩
          · split at h
            · rename_i hstate
              exact ⟨r, hr, .inr hstate, .inr (Except.ok.inj h).symm⟩
            · nomatch h

theorem reconcileIntentFromConfirmedFill_effect {db db' : Database} {id : String} (hk : db.Keyed)
    (h : reconcileIntentFromConfirmedFill db id = .ok db') :
    Effect { fills := fun i => i = id, revives := fun i => i = id } db db' := by
  obtain ⟨r, hr, hlive, rfl | rfl⟩ := reconcileIntentFromConfirmedFill_ok h
  · exact (SameBook.refl db').effect hk
  · have hid := (Table.get_some hr).2
    refine Effect.of_modifyIntent hk hr rfl rfl (fun _ => rfl) ⟨rfl, rfl, rfl, rfl, rfl, .inl rfl, ?_, ?_, ?_⟩
    · exact fun _ => .inr hid
    · exact fun _ => .inr hid
    · rintro (hfilled | hrejected)
      · exact hfilled.symm
      · rw [hrejected] at hlive
        simp at hlive

theorem projectPositionFromConfirmedFills_effect {db db' : Database} {a : Projection} (hk : db.Keyed)
    (h : projectPositionFromConfirmedFills db a = .ok db') :
    Effect { newPosition := fun p => p.intentId = a.intentId ∧ p.symbol = a.symbol ∧ p.direction = a.direction ∧
      p.executionMode = a.executionMode } db db' := by
  rcases projectPositionFromConfirmedFills_ok h with ⟨existing, totals, -, hopen, rfl⟩ | ⟨row, hinsert, -, hrow⟩
  · have hmem : existing ∈ db.positions := List.mem_of_find?_eq_some hopen
    have hget : db.position existing.positionId = some existing := Table.get_of_mem hk.positions hmem
    exact Effect.of_modifyPosition hk hget rfl rfl (fun _ => ⟨rfl, rfl⟩) ⟨rfl, rfl, rfl, rfl, rfl, rfl, fun ha => ha⟩
  · obtain ⟨hids, hintents, -, -, -, rfl⟩ := insertPosition_eq_ok.mp hinsert
    refine ⟨Table.Evolves.refl IntentKept.refl _, Table.evolves_insert PositionKept.refl hrow, hk.intents, ?_, ?_⟩
    · rw [List.map_append, List.map_singleton, ← List.concat_eq_append]
      refine List.Nodup.concat (fun hmem => ?_) hk.positions
      obtain ⟨p, hp, heq⟩ := List.mem_map.mp hmem
      exact hids p hp heq
    · rw [List.map_append, List.map_singleton, ← List.concat_eq_append]
      refine List.Nodup.concat (fun hmem => ?_) hk.positionIntents
      obtain ⟨p, hp, heq⟩ := List.mem_map.mp hmem
      exact hintents p hp heq

theorem markProtected_effect {positionId : String} (hk : db.Keyed)
    (h : markProtected db positionId = .ok db') : Effect {} db db' := by
  unfold markProtected at h
  split at h
  · cases h
    exact (SameBook.refl db).effect hk
  · split at h
    · exact transitionPosition_effect hk h
    · cases h
      exact (SameBook.refl db).effect hk

theorem saveEntryProtection_effect (hk : db.Keyed) (h : saveEntryProtection db a = .ok db') : Effect {} db db' := by
  unfold saveEntryProtection at h
  split at h
  · split at h
    · cases h
      exact (SameBook.refl db).effect hk
    · simp only at h
      obtain ⟨db₁, hsave, h⟩ := Loops.bind_eq_ok.mp h
      have hfirst : SameBook db db₁ := ((uuid4_touches db).book (by decide)).trans ((saveProtection_touches hsave).book (by decide))
      split at h
      · split at h
        · obtain ⟨db₂, hsubmit, h⟩ := Loops.bind_eq_ok.mp h
          obtain ⟨db₃, hactive, h⟩ := Loops.bind_eq_ok.mp h
          have hsame := (hfirst.trans ((transitionProtection_touches hsubmit).book (by decide))).trans
              ((updateProtectionActive_touches hactive).book (by decide))
          have hframe : Effect {} db db₃ := hsame.effect hk
          exact hframe.trans Scope.quiet_closed (markProtected_effect hframe.keyed h)
        · cases h
          exact hfirst.effect hk
      · cases h
        exact hfirst.effect hk
  · cases h
    exact (SameBook.refl db).effect hk

/-- The stages of `persistEntryAndProtection`: the intent, its acknowledgement, order and fills, its reconciliation, the
position and the protection. -/
theorem persistEntryAndProtection_ok {db db' : Database} {a : EntryFacts} (h : persistEntryAndProtection db a = .ok db') :
    (a.entryResult.positionProjectable = false ∧ db' = db) ∨
      (a.entryResult.positionProjectable = true ∧ ∃ db₁ db₂ db₃ db₄ db₅ db₆ intent orderRecordId,
        SameBook db db₁ ∧ ensureEntryIntent db₁ a = .ok db₂ ∧ db₂.intent a.intentId = some intent ∧
        acknowledgeIntent db₂ a.intentId intent.state "Acked" = .ok db₃ ∧ SameBook db₃ db₄ ∧
        reconcileIntentFromConfirmedFill db₄ a.intentId = .ok db₅ ∧ projectEntry db₅ a orderRecordId = .ok db₆ ∧
        saveEntryProtection db₆ a = .ok db') := by
  unfold persistEntryAndProtection at h
  split at h
  · nomatch h
  · split at h
    · rename_i hprojectable
      exact .inl ⟨by simpa using hprojectable, (Except.ok.inj h).symm⟩
    · rename_i hprojectable
      obtain ⟨db₀, hcycle, h⟩ := Loops.bind_eq_ok.mp h
      obtain ⟨db₂, hintent, h⟩ := Loops.bind_eq_ok.mp h
      split at h
      · nomatch h
      · rename_i intent hfound
        obtain ⟨db₃, hack, h⟩ := Loops.bind_eq_ok.mp h
        obtain ⟨⟨orderRecordId, db₃'⟩, horder, h⟩ := Loops.bind_eq_ok.mp h
        obtain ⟨db₃'', hreceipt, h⟩ := Loops.bind_eq_ok.mp h
        obtain ⟨db₄, hfills, h⟩ := Loops.bind_eq_ok.mp h
        obtain ⟨db₅, hreconcile, h⟩ := Loops.bind_eq_ok.mp h
        obtain ⟨db₆, hproject, h⟩ := Loops.bind_eq_ok.mp h
        refine .inr ⟨by simpa using hprojectable, ensureDecision db₀ a.decisionId, db₂, db₃, db₄, db₅, db₆, intent,
          orderRecordId, ?_, hintent, hfound, hack, ?_, hreconcile, hproject, h⟩
        · exact ((ensureCycle_touches hcycle).book (by decide)).trans ((ensureDecision_touches db₀ a.decisionId).book (by decide))
        · exact (((ensureOrder_touches horder).book (by decide)).trans
            ((saveExchangeOrderReceipt_touches hreceipt).book (by decide))).trans
            ((saveEntryFills_touches hfills).book (by decide))

theorem projectEntry_effect {orderRecordId : String} {known : Prop} (hk : db.Keyed)
    (h : projectEntry db a orderRecordId = .ok db') : Effect (a.scope known) db db' := by
  unfold projectEntry at h
  split at h
  · rename_i hproject
    refine (projectPositionFromConfirmedFills_effect hk h).mono ?_
    exact ⟨fun _ hf => hf.elim, fun _ hr => hr.elim, fun _ hr => hr.elim, fun _ hr => hr.elim, fun _ hp => ⟨hproject, hp⟩⟩
  · cases h
    exact (SameBook.refl db).effect hk

theorem persistEntryAndProtection_effect (hk : db.Keyed)
    (h : persistEntryAndProtection db a = .ok db') : Effect (a.scope (db.intent a.intentId).isSome) db db' := by
  rcases persistEntryAndProtection_ok h with ⟨-, rfl⟩ | ⟨-, db₁, db₂, db₃, db₄, db₅, db₆, intent, orderRecordId, hframe,
    hintent, -, hack, hsame, hreconcile, hproject, hprotect⟩
  · exact (SameBook.refl db').effect hk
  · have hclosed := a.scope_closed (db.intent a.intentId).isSome
    have h₁ : Effect (a.scope (db.intent a.intentId).isSome) db db₁ := hframe.effect hk
    have h₂ := ensureEntryIntent_effect h₁.keyed hintent
    rw [hframe.intent] at h₂
    have h₃ := acknowledgeIntent_effect h₂.keyed hack
    have h₄ : Effect {} db₃ db₄ := hsame.effect h₃.keyed
    have h₅ := reconcileIntentFromConfirmedFill_effect h₄.keyed hreconcile
    have h₆ : Effect (a.scope (db.intent a.intentId).isSome) db₅ db₆ := projectEntry_effect h₅.keyed hproject
    have h₇ := saveEntryProtection_effect h₆.keyed hprotect
    have h₅' : Effect (a.scope (db.intent a.intentId).isSome) db₄ db₅ :=
      h₅.mono ⟨fun _ hf => hf, fun _ hr => hr, fun _ hr => hr.elim, fun _ hr => hr.elim, fun _ hp => hp.elim⟩
    exact (((((h₁.trans hclosed h₂).trans hclosed h₃.quiet).trans hclosed h₄.quiet).trans hclosed h₅').trans hclosed
      h₆).trans hclosed h₇.quiet

/-- The intent of the facts keeps its state until it is acknowledged. -/
theorem ensureEntryIntent_state {r r' : IntentRow} (hr : db.intent a.intentId = some r)
    (h : ensureEntryIntent db a = .ok db') (hr' : db'.intent a.intentId = some r') : r'.state = r.state := by
  unfold ensureEntryIntent at h
  rw [hr] at h
  simp only at h
  split at h
  · cases h
    have hget : (Database.modifyIntent _ _ _).intent a.intentId = some r' := hr'
    rw [Database.intent_modifyIntent, hr] at hget
    · cases hget
      rfl
    · exact fun _ => rfl
  · cases h
    cases hr.symm.trans hr'
    rfl

/-- No fact of a fill is persisted for a rejected intent. -/
theorem persistEntryAndProtection_not_rejected {r : IntentRow}
    (h : persistEntryAndProtection db a = .ok db') (hp : a.entryResult.positionProjectable = true)
    (hr : db.intent a.intentId = some r) : r.state ≠ .rejected := by
  intro hrejected
  rcases persistEntryAndProtection_ok h with ⟨hnot, -⟩ | ⟨-, db₁, db₂, db₃, db₄, db₅, db₆, intent, orderRecordId, hframe,
    hintent, hfound, hack, hsame, hreconcile, -, -⟩
  · rw [hp] at hnot
    nomatch hnot
  · have hstate : intent.state = .rejected :=
      (ensureEntryIntent_state ((hframe.intent a.intentId).trans hr) hintent hfound).trans hrejected
    -- a rejected intent is not acknowledged, and the reconciliation refuses it
    rw [hstate] at hack
    cases hack
    obtain ⟨r', hr', hlive, -⟩ := reconcileIntentFromConfirmedFill_ok hreconcile
    rw [hsame.intent, hfound] at hr'
    cases hr'
    rw [hstate] at hlive
    simp at hlive

/-- The facts are merged into a position that is open already. -/
def EntryFacts.merges (a : EntryFacts) (db : Database) : Bool :=
  a.allowExistingPositionAggregation && (db.openPosition a.symbol a.direction a.executionMode).isSome

/-- Facts that ask for a position and are not merged leave a position of their intent, in their mode. -/
theorem persistEntryAndProtection_projects {db db' : Database} {a : EntryFacts} (hk : db.Keyed)
    (h : persistEntryAndProtection db a = .ok db') (hp : a.entryResult.positionProjectable = true)
    (hproject : a.projectPosition = true) (hmerge : a.merges db = false) :
    ∃ p ∈ db'.positions, p.intentId = a.intentId ∧ p.executionMode = a.executionMode := by
  rcases persistEntryAndProtection_ok h with ⟨hnot, -⟩ | ⟨-, db₁, db₂, db₃, db₄, db₅, db₆, intent, orderRecordId, hframe,
    hintent, hfound, hack, hsame, hreconcile, hprojected, hprotect⟩
  · rw [hp] at hnot
    nomatch hnot
  · have h₁ : Effect {} db db₁ := hframe.effect hk
    have h₂ := ensureEntryIntent_effect h₁.keyed hintent
    have h₃ := acknowledgeIntent_effect h₂.keyed hack
    have h₄ : Effect {} db₃ db₄ := hsame.effect h₃.keyed
    have h₅ := reconcileIntentFromConfirmedFill_effect h₄.keyed hreconcile
    have h₆ : Effect (a.scope True) db₅ db₆ := projectEntry_effect h₅.keyed hprojected
    have h₇ := saveEntryProtection_effect h₆.keyed hprotect
    unfold projectEntry at hprojected
    rw [if_pos hproject] at hprojected
    rcases projectPositionFromConfirmedFills_ok hprojected with ⟨existing, totals, hallow, hopen, -⟩ | ⟨row, hinsert, -, hrow⟩
    · have hpositions : db₅.positions = db.positions := by
        rw [((reconcileIntentFromConfirmedFill_touches hreconcile).positions (by decide)), hsame.positions,
            ((acknowledgeIntent_touches hack).positions (by decide)),
          ((ensureEntryIntent_touches hintent).positions (by decide)), hframe.positions]
      have hmerged : a.merges db = true := by
        unfold Database.openPosition at hopen
        rw [hpositions] at hopen
        unfold EntryFacts.merges Database.openPosition
        rw [hopen]
        simpa using hallow
      rw [hmerge] at hmerged
      nomatch hmerged
    · obtain ⟨-, -, -, -, -, rfl⟩ := insertPosition_eq_ok.mp hinsert
      obtain ⟨p, hpmem, hkept⟩ := h₇.positions.successor (List.mem_append_right _ (List.mem_singleton_self row.stored))
      exact ⟨p, hpmem, hkept.intent.trans hrow.1, hkept.mode.trans hrow.2.2.2⟩

/-! ## Operations on an exit -/

/-- What the first operation on an exit adds: its intent, under the key of an exit and without a risk. -/
def exitCreatedScope (clientOrderId : String) : Scope where
  newIntent := fun r => r.intentId = exitIntentId clientOrderId ∧ isExitKey r.candidateKey = true ∧ r.initialRiskUsdt = none

/-- What the operations on an exit may do: they create its intent, and fill it. -/
def exitScope (clientOrderId : String) : Scope :=
  { exitCreatedScope clientOrderId with fills := fun id => id = exitIntentId clientOrderId }

theorem exitCreatedScope_within (clientOrderId : String) : (exitCreatedScope clientOrderId).Within (exitScope clientOrderId) :=
  ⟨fun _ h => h.elim, fun _ h => h, fun _ h => h, fun _ h => h, fun _ h => h⟩

theorem exitCreatedScope_closed (clientOrderId : String) : (exitCreatedScope clientOrderId).Closed where
  newIntent := fun _ _ hr hk => ⟨hk.id.trans hr.1, hk.key ▸ hr.2.1, (hk.risk_eq fun h => h).trans hr.2.2⟩
  newPosition := fun _ _ h _ => h

theorem exitScope_closed (clientOrderId : String) : (exitScope clientOrderId).Closed where
  newIntent := fun _ _ hr hk => ⟨hk.id.trans hr.1, hk.key ▸ hr.2.1, (hk.risk_eq fun h => h).trans hr.2.2⟩
  newPosition := fun _ _ h _ => h

theorem isExitKey_exit (rest : String) : isExitKey ("exit:" ++ rest) = true := by
  unfold isExitKey
  rw [String.toList_append]
  exact List.isPrefixOf_iff_prefix.mpr (List.prefix_append _ _)

theorem ensureExitIntent_effect {a : ExitIdentity} {p : PositionRow} {t : V2CandidateType}
    (hk : db.Keyed) (h : ensureExitIntent db a p t = .ok db') : Effect (exitCreatedScope a.clientOrderId) db db' := by
  unfold ensureExitIntent at h
  split at h
  · refine (createSubmittingIntent_effect hk h fun hf => nomatch hf).mono ⟨fun _ hf => hf, fun _ hr => hr,
      fun _ hr => hr, ?_, fun _ hp => hp⟩
    intro r hr
    refine ⟨hr.1.id, ?_, hr.1.risk⟩
    rw [hr.1.key]
    unfold ExitIdentity.intentRow
    rw [String.append_assoc, String.append_assoc]
    exact isExitKey_exit _
  · cases h
    exact (SameBook.refl db).effect hk

theorem persistExitIntentBeforeSubmission_effect {a : ExitIdentity} (hk : db.Keyed)
    (h : persistExitIntentBeforeSubmission db a = .ok db') : Effect (exitCreatedScope a.clientOrderId) db db' := by
  unfold persistExitIntentBeforeSubmission at h
  split at h
  · nomatch h
  · obtain ⟨⟨position, entryIntent, entryOrder⟩, -, h⟩ := Loops.bind_eq_ok.mp h
    obtain ⟨db₁, hcycle, h⟩ := Loops.bind_eq_ok.mp h
    obtain ⟨db₂, hintent, h⟩ := Loops.bind_eq_ok.mp h
    have h₁ : Effect (exitCreatedScope a.clientOrderId) db db₁ := ((ensureCycle_touches hcycle).book (by decide)).effect hk
    have h₂ := h₁.trans (exitCreatedScope_closed _) (ensureExitIntent_effect h₁.keyed hintent)
    exact h₂.trans (exitCreatedScope_closed _) (((ensureExitOrder_touches h).book (by decide)).effect h₂.keyed)

theorem startReducing_effect {db db' : Database} {p : PositionRow} (hk : db.Keyed) (h : startReducing db p = .ok db') :
    Effect {} db db' := by
  unfold startReducing at h
  split at h
  · exact transitionPosition_effect hk h
  · cases h
    exact (SameBook.refl db).effect hk

theorem persistExitSubmissionResult_effect {positionId : String} {result : ExitExecutionResult}
    (hk : db.Keyed) (h : persistExitSubmissionResult db positionId result = .ok db') : Effect {} db db' := by
  unfold persistExitSubmissionResult at h
  simp only at h
  split at h
  · nomatch h
  · split at h
    · nomatch h
    · split at h
      · nomatch h
      · have hsettle : ∀ {next : V2IntentState} {eventType : String} {c : Prop} [Decidable c] {current : V2IntentState},
            next ≠ .filled → (if c then transitionIntent db (exitIntentId result.clientOrderId) current next eventType
              else .ok db) = .ok db' → Effect {} db db' := by
          intro next eventType c _ current hnext hmove
          split at hmove
          · exact transitionIntent_quiet hk hmove hnext
          · cases hmove
            exact (SameBook.refl db).effect hk
        split at h
        · exact hsettle (by decide) h
        · exact hsettle (by split <;> decide) h
        · exact hsettle (by split <;> decide) h
        · split at h
          · obtain ⟨db₁, hreceipt, h⟩ := Loops.bind_eq_ok.mp h
            obtain ⟨db₂, hack, h⟩ := Loops.bind_eq_ok.mp h
            have h₁ : Effect {} db db₁ := ((saveExchangeOrderReceipt_touches hreceipt).book (by decide)).effect hk
            have h₂ := h₁.trans Scope.quiet_closed (acknowledgeIntent_effect h₁.keyed hack)
            exact h₂.trans Scope.quiet_closed (startReducing_effect h₂.keyed h)
          · cases h
            exact (SameBook.refl db).effect hk

theorem repairQuarantined_effect {positionId orderRecordId : String} (hk : db.Keyed)
    (h : repairQuarantinedPositionFromConfirmedExit db positionId orderRecordId = .ok db') : Effect {} db db' := by
  unfold repairQuarantinedPositionFromConfirmedExit at h
  split at h
  · nomatch h
  · rename_i p hp
    simp only at h
    split at h
    · nomatch h
    · split at h
      · nomatch h
      · split at h
        · nomatch h
        · split at h
          · nomatch h
          · split at h
            · nomatch h
            · cases h
              exact Effect.of_modifyPosition hk hp rfl rfl (fun _ => ⟨rfl, rfl⟩)
                ⟨rfl, rfl, rfl, rfl, rfl, rfl, fun ha => nomatch ha⟩

theorem reducePosition_effect {db db' : Database} {p : PositionRow} (hk : db.Keyed) (h : reducePosition db p = .ok db') :
    Effect {} db db' := by
  unfold reducePosition at h
  split at h
  · exact transitionPosition_effect hk h
  · cases h
    exact (SameBook.refl db).effect hk

theorem moveExitedPosition_effect {db db' : Database} {p : PositionRow} {orderRecordId : String}
    {status : ExitExecutionStatus} (hk : db.Keyed) (h : moveExitedPosition db p orderRecordId status = .ok db') :
    Effect {} db db' := by
  unfold moveExitedPosition at h
  split at h
  · exact repairQuarantined_effect hk h
  · obtain ⟨db₁, hreduce, h⟩ := Loops.bind_eq_ok.mp h
    have h₁ := reducePosition_effect hk hreduce
    split at h
    · exact h₁.trans Scope.quiet_closed (transitionPosition_effect h₁.keyed h)
    · cases h
      exact h₁

/-- A change that leaves identity and state alone. -/
theorem modifyPosition_quiet {db : Database} (hk : db.Keyed) (id : String) {f : PositionRow → PositionRow}
    (hf : ∀ p, PositionKept p (f p)) : Effect {} db (db.modifyPosition id f) where
  intents := Table.Evolves.refl IntentKept.refl _
  positions := Table.evolves_modify PositionKept.refl fun p _ _ => hf p
  keyed := by
    refine ⟨hk.intents, ?_, ?_⟩
    · unfold Database.modifyPosition
      rw [Table.map_modify fun p => (hf p).id]
      exact hk.positions
    · unfold Database.modifyPosition
      rw [Table.map_modify fun p => (hf p).intent]
      exact hk.positionIntents

theorem settleExitedPosition_effect {db : Database} {p : PositionRow} {result : ExitExecutionResult} (hk : db.Keyed) :
    Effect {} db (settleExitedPosition db p result) := by
  unfold settleExitedPosition
  split
  · exact modifyPosition_quiet hk _ fun _ => ⟨rfl, rfl, rfl, rfl, rfl, rfl, fun ha => ha⟩
  · split
    · exact modifyPosition_quiet hk _ fun _ => ⟨rfl, rfl, rfl, rfl, rfl, rfl, fun ha => ha⟩
    · exact (SameBook.refl db).effect hk

theorem persistExitFills_effect {a : ExitFacts} (hk : db.Keyed)
    (h : persistExitFills db a = .ok db') : Effect (exitScope a.result.clientOrderId) db db' := by
  unfold persistExitFills at h
  obtain ⟨⟨position, entryIntent, entryOrder⟩, -, h⟩ := Loops.bind_eq_ok.mp h
  simp only at h
  split at h
  · nomatch h
  · obtain ⟨db₁, hfills, h⟩ := Loops.bind_eq_ok.mp h
    obtain ⟨db₂, hintent, h⟩ := Loops.bind_eq_ok.mp h
    obtain ⟨db₃, hmove, h⟩ := Loops.bind_eq_ok.mp h
    have hclosed := exitScope_closed a.result.clientOrderId
    have h₁ : Effect (exitScope a.result.clientOrderId) db db₁ := ((saveExitFills_touches hfills).book (by decide)).effect hk
    have h₂ : Effect (exitScope a.result.clientOrderId) db₁ db₂ :=
      (transitionIntent_effect h₁.keyed hintent).mono
        ⟨fun _ hf => hf.1, fun _ hr => hr, fun _ hr => hr, fun _ hr => hr.elim, fun _ hp => hp⟩
    have h₃ := moveExitedPosition_effect h₂.keyed hmove
    have h₄ : Effect {} db₃ (settleExitedPosition db₃ position a.result) := settleExitedPosition_effect h₃.keyed
    have h₅ : Effect {} _ db' := ((Touches.foldlM settleExitedProtection_touches h).book (by decide)).effect h₄.keyed
    exact (((h₁.trans hclosed h₂).trans hclosed h₃.quiet).trans hclosed h₄.quiet).trans hclosed h₅.quiet

/-! ## Every operation -/

/-- A transaction has the effect of what it commits, or none. -/
theorem transaction_effect {s : Scope} {db : Database} {result : Except PyError Database} (hk : db.Keyed)
    (h : ∀ db', result = .ok db' → Effect s db db') : Effect s db (transaction db result).2 := by
  cases result with
  | error e => exact (SameBook.refl db).effect hk
  | ok db' => exact h db' rfl

theorem persistConfirmedExit_effect {db : Database} {a : ExitFacts} (hk : db.Keyed) :
    Effect (exitScope a.result.clientOrderId) db (persistConfirmedExit db a).2 := by
  have hclosed := exitScope_closed a.result.clientOrderId
  have h₁ : Effect (exitScope a.result.clientOrderId) db (transaction db (persistExitIntentBeforeSubmission db a.identity)).2 :=
    transaction_effect hk fun _ h =>
      (persistExitIntentBeforeSubmission_effect (a := a.identity) hk h).mono (exitCreatedScope_within _)
  unfold persistConfirmedExit
  rcases hfirst : transaction db (persistExitIntentBeforeSubmission db a.identity) with ⟨e | _, db₁⟩
  · rw [hfirst] at h₁
    exact h₁
  · rw [hfirst] at h₁
    have h₂ : Effect (exitScope a.result.clientOrderId) db₁
        (transaction db₁ (persistExitSubmissionResult db₁ a.positionId a.result)).2 :=
      transaction_effect h₁.keyed fun _ h => (persistExitSubmissionResult_effect h₁.keyed h).quiet
    simp only
    rcases hsecond : transaction db₁ (persistExitSubmissionResult db₁ a.positionId a.result) with ⟨e | _, db₂⟩
    · rw [hsecond] at h₂
      exact h₁.trans hclosed h₂
    · rw [hsecond] at h₂
      have h₁₂ := h₁.trans hclosed h₂
      exact h₁₂.trans hclosed (transaction_effect h₁₂.keyed fun _ h => persistExitFills_effect h₁₂.keyed h)

theorem persistExitResult_effect {db : Database} {a : ExitFacts} (hk : db.Keyed) :
    Effect (exitScope a.result.clientOrderId) db (persistExitResult db a).2 := by
  have hnone : Effect (exitScope a.result.clientOrderId) db db := (SameBook.refl db).effect hk
  unfold persistExitResult
  split
  · exact hnone
  · split
    · exact hnone
    · split
      · exact hnone
      · split
        · exact persistConfirmedExit_effect hk
        · split
          · exact hnone
          · exact hnone

/-- What an operation may do. -/
def PersistOp.scope (db : Database) : PersistOp → Scope
  | .reserve a => a.scope
  | .submissionResult _ _ _ => {}
  | .entryAndProtection a => a.scope (db.intent a.intentId).isSome
  | .transitionIntent intentId _ nextState _ => { fills := fun id => id = intentId ∧ nextState = .filled }
  | .reconcileIntent intentId => { fills := fun id => id = intentId, revives := fun id => id = intentId }
  | .exitIntent a => exitCreatedScope a.clientOrderId
  | .exitSubmissionResult _ _ => {}
  | .exitResult a => exitScope a.result.clientOrderId
  | .transitionPosition _ _ _ _ => {}
  | .repairQuarantined _ _ => {}
  | .closedProtections _ _ _ => {}
  | .setEntryEnabled _ => {}

/-- Every operation stays within its scope. -/
theorem PersistOp.apply_effect {db : Database} (hk : db.Keyed) (op : PersistOp) : Effect (op.scope db) db (op.apply db) := by
  cases op with
  | reserve a =>
    refine transaction_effect hk fun db' h => ?_
    cases hres : persistEntryIntentBeforeSubmission db a with
    | error e => simp [hres, Except.map] at h
    | ok result =>
      obtain ⟨reason, db₁⟩ := result
      rw [hres] at h
      cases h
      exact persistEntryIntentBeforeSubmission_effect hk hres
  | submissionResult intentId leverage result =>
    exact transaction_effect hk fun _ h => persistEntrySubmissionResult_effect hk h
  | entryAndProtection a => exact transaction_effect hk fun _ h => persistEntryAndProtection_effect hk h
  | transitionIntent intentId current next eventType => exact transaction_effect hk fun _ h => transitionIntent_effect hk h
  | reconcileIntent intentId => exact transaction_effect hk fun _ h => reconcileIntentFromConfirmedFill_effect hk h
  | exitIntent a => exact transaction_effect hk fun _ h => persistExitIntentBeforeSubmission_effect hk h
  | exitSubmissionResult positionId result =>
    exact transaction_effect hk fun _ h => persistExitSubmissionResult_effect hk h
  | exitResult a => exact persistExitResult_effect hk
  | transitionPosition positionId current next eventType =>
    exact transaction_effect hk fun _ h => transitionPosition_effect hk h
  | repairQuarantined positionId orderRecordId => exact transaction_effect hk fun _ h => repairQuarantined_effect hk h
  | closedProtections mode symbol openIds =>
    exact transaction_effect hk fun _ h => ((reconcileClosedPositionProtections_touches h).book (by decide)).effect hk
  | setEntryEnabled enabled => exact Effect.of_same hk rfl rfl

/-! ## What an operation that changes the database did -/

/-- A reservation changes nothing or was admitted. -/
theorem PersistOp.reserve_cases (db : Database) (a : EntryReservation) :
    (PersistOp.reserve a).apply db = db ∨
      (reservationBlock db a = none ∧ ∃ db', persistEntryIntentBeforeSubmission db a = .ok (none, db')) := by
  cases hres : persistEntryIntentBeforeSubmission db a with
  | error e => exact .inl (by simp [PersistOp.apply, hres, Except.map, transaction])
  | ok result =>
    obtain ⟨reason, db'⟩ := result
    have hres' := hres
    unfold persistEntryIntentBeforeSubmission at hres'
    split at hres'
    · nomatch hres'
    · split at hres'
      · obtain ⟨-, rfl⟩ := Prod.mk.inj (Except.ok.inj hres')
        exact .inl (by simp [PersistOp.apply, hres, Except.map, transaction])
      · rename_i hblock
        obtain ⟨db₁, -, hres'⟩ := Loops.bind_eq_ok.mp hres'
        simp only at hres'
        split at hres'
        · obtain ⟨rfl, rfl⟩ := Prod.mk.inj (Except.ok.inj hres')
          exact .inr ⟨hblock, _, rfl⟩
        · obtain ⟨db₂, -, hres'⟩ := Loops.bind_eq_ok.mp hres'
          obtain ⟨rfl, rfl⟩ := Prod.mk.inj (Except.ok.inj hres')
          exact .inr ⟨hblock, _, rfl⟩

/-- The facts of an entry change nothing, or they are of a confirmed fill and were persisted. -/
theorem PersistOp.entryAndProtection_cases (db : Database) (a : EntryFacts) :
    (PersistOp.entryAndProtection a).apply db = db ∨
      (a.entryResult.positionProjectable = true ∧
        persistEntryAndProtection db a = .ok ((PersistOp.entryAndProtection a).apply db)) := by
  cases hres : persistEntryAndProtection db a with
  | error e => exact .inl (by simp [PersistOp.apply, hres, transaction])
  | ok db' =>
    have happly : (PersistOp.entryAndProtection a).apply db = db' := by simp [PersistOp.apply, hres, transaction]
    rw [happly]
    rcases persistEntryAndProtection_ok hres with ⟨-, heq⟩ | ⟨hp, -⟩
    · exact .inl heq
    · exact .inr ⟨hp, rfl⟩

/-- A reconciliation changes nothing or went through. -/
theorem PersistOp.reconcileIntent_cases (db : Database) (intentId : String) :
    (PersistOp.reconcileIntent intentId).apply db = db ∨
      reconcileIntentFromConfirmedFill db intentId = .ok ((PersistOp.reconcileIntent intentId).apply db) := by
  cases hres : reconcileIntentFromConfirmedFill db intentId with
  | error e => exact .inl (by simp [PersistOp.apply, hres, transaction])
  | ok db' => exact .inr (by simp [PersistOp.apply, hres, transaction])

end TradingPlatform
