import TradingPlatform.Lemmas.ProtectionRecords

/-!
# What the recovery of a gap leaves

One decision of `_recover_confirmed_v2_entry_gap`, described by what it does to the positions. A gap is closed when its
decision will not change a position again; the rows a settled decision leaves keep the gaps before it closed.
-/

namespace TradingPlatform

/-! ## What a decision reads -/

/-- What a decision about a gap reads is the same: the positions, and the answers of the exchange. -/
structure World.SameGround (w w' : World) : Prop where
  positions : w'.db.positions = w.db.positions
  answers : w.exchange.SameAnswers w'.exchange

section

variable {w w' w'' : World} {r : GapRequest} {e : GapEvidence}

theorem World.SameGround.refl (w : World) : w.SameGround w := ⟨rfl, Exchange.SameAnswers.refl _⟩

theorem World.SameGround.trans (h : w.SameGround w') (h' : w'.SameGround w'') : w.SameGround w'' :=
  ⟨h'.positions.trans h.positions, h.answers.trans h'.answers⟩

theorem confirmedGapFill_congr {x x' : Exchange} (h : x.SameAnswers x') (e : GapEvidence) (direction : Direction)
    (quantity : ℚ) : confirmedGapFill x' e direction quantity = confirmedGapFill x e direction quantity := by
  unfold confirmedGapFill fetchFills queryFilledOrderById
  rw [h.gatewayError, h.trades, h.orderStatus]

theorem decideGap_congr (h : w.SameGround w') (r : GapRequest) (e : GapEvidence) : decideGap w' r e = decideGap w r e := by
  unfold decideGap
  rw [h.positions]
  simp only [confirmedGapFill_congr h.answers]

/-- The exchange position a gap is about. -/
def GapEvidence.held (e : GapEvidence) (r : GapRequest) : Option (Direction × ExchangePositionSnapshot) :=
  e.direction.bind fun d => (r.snapshot.positionOf r.symbol d).map fun p => (d, p)

theorem GapEvidence.held_direction {d : Direction} {held : ExchangePositionSnapshot} (h : e.held r = some (d, held)) :
    r.snapshot.positionOf r.symbol d = some held := by
  obtain ⟨d', -, h⟩ := Option.bind_eq_some_iff.mp h
  obtain ⟨held', hpos, h⟩ := Option.map_eq_some_iff.mp h
  cases h
  exact hpos

/-- A gap that is left alone. -/
theorem decideGap_skip (h : decideGap w r e = .ok .skip) :
    e.exact = false ∨ (∃ p ∈ w.db.positions, p.intentId = e.intentId) ∨
      ∃ d held, e.held r = some (d, held) ∧ confirmedGapFill w.exchange e d held.quantity = .ok none := by
  unfold decideGap at h
  split at h
  · rename_i hskip
    rcases (Bool.or_eq_true _ _).mp hskip with hexact | hrow
    · exact .inl (by simpa using hexact)
    · obtain ⟨p, hp, hid⟩ := List.any_eq_true.mp hrow
      exact .inr (.inl ⟨p, hp, of_decide_eq_true hid⟩)
  · split at h
    · nomatch h
    · rename_i d held hheld
      split at h
      · nomatch h
      · rename_i hfill
        exact .inr (.inr ⟨d, held, hheld, hfill⟩)
      · split at h <;> nomatch h

/-- A gap that is taken for flat has no exchange position. -/
theorem decideGap_flat (h : decideGap w r e = .ok .flat) : e.held r = none := by
  unfold decideGap at h
  split at h
  · nomatch h
  · split at h
    · rename_i hheld
      exact hheld
    · split at h
      · nomatch h
      · nomatch h
      · split at h <;> nomatch h

/-- What an adoption says of its gap. -/
theorem decideGap_adopt {a : GapAdoption} (h : decideGap w r e = .ok (.adopt a)) :
    a.evidence = e ∧ ¬(e.exact = false ∨ ∃ p ∈ w.db.positions, p.intentId = e.intentId) ∧
      ∃ held, e.held r = some (a.direction, held) ∧ a.exchangeQuantity = held.quantity ∧
        confirmedGapFill w.exchange e a.direction held.quantity = .ok (some a.entryResult) := by
  unfold decideGap at h
  split at h
  · nomatch h
  · rename_i hskip
    split at h
    · nomatch h
    · rename_i d held hheld
      split at h
      · nomatch h
      · nomatch h
      · rename_i result hfill
        split at h
        · nomatch h
        · nomatch h
        · nomatch h
        · obtain rfl := GapDecision.adopt.inj (Except.ok.inj h)
          refine ⟨rfl, ?_, held, hheld, rfl, hfill⟩
          simpa using hskip

end

/-! ## Closed gaps -/

/-- A gap whose decision changes no position, whatever becomes of it. -/
inductive GapEvidence.Closed (e : GapEvidence) (r : GapRequest) (w : World) : Prop where
  | inexact (h : e.exact = false)
  | projected (p : PositionRow) (hp : p ∈ w.db.positions) (h : p.intentId = e.intentId)
  | flat (h : e.held r = none)
  | unfilled (d : Direction) (held : ExchangePositionSnapshot) (h : e.held r = some (d, held))
      (hfill : confirmedGapFill w.exchange e d held.quantity = .ok none)
  | whole (d : Direction) (held : ExchangePositionSnapshot) (h : e.held r = some (d, held)) (p : PositionRow)
      (hp : w.db.openPosition r.symbol d r.executionMode = some p) (hq : p.quantity = held.quantity)

section

variable {w w' : World} {r : GapRequest} {e : GapEvidence}

theorem GapEvidence.Closed.congr (h : e.Closed r w) (hground : w.SameGround w') : e.Closed r w' := by
  cases h with
  | inexact h => exact .inexact h
  | projected p hp h => exact .projected p (hground.positions ▸ hp) h
  | flat h => exact .flat h
  | unfilled d held h hfill => exact .unfilled d held h ((confirmedGapFill_congr hground.answers e d _).trans hfill)
  | whole d held h p hp hq =>
    refine .whole d held h p ?_ hq
    unfold Database.openPosition
    rw [hground.positions]
    exact hp

theorem transaction_positions {db : Database} {result : Except PyError Database}
    (h : ∀ db', result = .ok db' → db'.positions = db.positions) : (transaction db result).2.positions = db.positions := by
  cases result with
  | error e => rfl
  | ok db' => exact h db' rfl

/-- The facts of a gap without a position are those of its order and its intent. -/
theorem settleFlatGap_ground (w : World) (r : GapRequest) (e : GapEvidence) : w.SameGround (settleFlatGap w r e).2 := by
  have hpersist : ∀ order intent status db', persistFlatGap w.db r e order intent status = .ok db' →
      db'.positions = w.db.positions := by
    intro order intent status db' h
    unfold persistFlatGap at h
    obtain ⟨db₁, hfill, h⟩ := Loops.bind_eq_ok.mp h
    have hfirst : db₁.positions = w.db.positions := by
      split at hfill
      · cases hfill
        rfl
      · exact (saveOrderLevelFillRecovery_touches hfill).positions (by decide)
    split at h
    · exact ((transitionIntent_touches h).positions (by decide)).trans hfirst
    · cases h
      exact hfirst
  unfold settleFlatGap
  dsimp only
  split
  · exact World.SameGround.refl w
  · split
    · exact World.SameGround.refl w
    · rename_i status order intent _ _
      split
      · have htransaction := transaction_positions (hpersist order intent status)
        split
        · rename_i err db heq
          rw [heq] at htransaction
          exact ⟨htransaction, Exchange.SameAnswers.refl _⟩
        · rename_i db heq
          rw [heq] at htransaction
          exact ⟨htransaction, Exchange.SameAnswers.refl _⟩
      · exact World.SameGround.refl w
    · exact World.SameGround.refl w

/-- Facts that ask for no position leave the positions alone. -/
theorem persistEntryAndProtection_positions {db db' : Database} {a : EntryFacts} (hproject : a.projectPosition = false)
    (hprotection : a.protectionResult = none) (h : persistEntryAndProtection db a = .ok db') :
    db'.positions = db.positions := by
  cases hprojectable : a.entryResult.positionProjectable with
  | false =>
    unfold persistEntryAndProtection at h
    split at h
    · nomatch h
    · rw [hprojectable, Bool.not_false, if_pos rfl] at h
      cases h
      rfl
  | true =>
    obtain ⟨added, db₁, db₂, orderRecordId, -, hframe, hprojected, hprotect⟩ := persistEntryAndProtection_frame h hprojectable
    unfold projectEntry at hprojected
    rw [hproject] at hprojected
    cases hprojected
    unfold saveEntryProtection at hprotect
    rw [hprotection] at hprotect
    cases hprotect
    exact hframe.positions

theorem GapAdoption.persist_ground {a : GapAdoption} {db : Database} (hproject : a.shouldProject w.db r = false) :
    (⟨db, w.exchange⟩ : World).SameGround (a.persist w r none none w.exchange db).2 := by
  have htransaction : (transaction db (persistEntryAndProtection db (a.facts w.db r none none))).2.positions = db.positions :=
    transaction_positions fun _ h => persistEntryAndProtection_positions hproject rfl h
  unfold GapAdoption.persist
  split
  · rename_i err db₁ heq
    rw [heq] at htransaction
    exact ⟨htransaction, Exchange.SameAnswers.refl _⟩
  · rename_i db₁ heq
    rw [heq] at htransaction
    exact ⟨htransaction, Exchange.SameAnswers.refl _⟩

/-- The decision of a closed gap changes no position. -/
theorem recoverEntryGap_closed (h : e.Closed r w) : w.SameGround (recoverEntryGap w r e).2 := by
  unfold recoverEntryGap
  split
  · exact World.SameGround.refl w
  · exact World.SameGround.refl w
  · exact settleFlatGap_ground w r e
  · exact World.SameGround.refl w
  · rename_i a hdecide
    obtain ⟨-, hnot, held, hheld, hquantity, hfill⟩ := decideGap_adopt hdecide
    cases h with
    | inexact h => exact absurd (.inl h) hnot
    | projected p hp h => exact absurd (.inr ⟨p, hp, h⟩) hnot
    | flat h =>
      rw [h] at hheld
      nomatch hheld
    | unfilled d held' h hnone =>
      obtain ⟨rfl, rfl⟩ := Prod.mk.inj (Option.some.inj (h.symm.trans hheld))
      rw [hnone] at hfill
      nomatch hfill
    | whole d held' h p hp hq =>
      obtain ⟨rfl, rfl⟩ := Prod.mk.inj (Option.some.inj (h.symm.trans hheld))
      have hexisting : a.existing w.db r = some p := hp
      have hproject : a.shouldProject w.db r = false := by
        unfold GapAdoption.shouldProject
        rw [hexisting]
        simp [hquantity, hq]
      have hlower : a.lowerQuantity w.db r = .ok w.db := by
        unfold GapAdoption.lowerQuantity
        rw [hexisting]
        simp [hquantity, hq]
      unfold adoptGap
      rw [hproject, hlower]
      exact GapAdoption.persist_ground hproject

end

/-! ## Settled gaps -/

/-- What became of a position: it keeps its identity and stays open, and a quantity that is the one of the exchange stays. -/
structure PositionRow.Stays (r : GapRequest) (p p' : PositionRow) : Prop where
  id : p'.positionId = p.positionId
  intent : p'.intentId = p.intentId
  symbol : p'.symbol = p.symbol
  direction : p'.direction = p.direction
  mode : p'.executionMode = p.executionMode
  isOpen : p'.isOpen = p.isOpen
  quantity : ∀ held, r.snapshot.positionOf r.symbol p.direction = some held → p.quantity = held.quantity →
    p'.quantity = p.quantity

theorem PositionRow.Stays.refl (r : GapRequest) (p : PositionRow) : p.Stays r p :=
  ⟨rfl, rfl, rfl, rfl, rfl, rfl, fun _ _ _ => rfl⟩

theorem PositionRow.Stays.trans {r : GapRequest} {p p' p'' : PositionRow} (h : p.Stays r p') (h' : p'.Stays r p'') :
    p.Stays r p'' := by
  refine ⟨h'.id.trans h.id, h'.intent.trans h.intent, h'.symbol.trans h.symbol, h'.direction.trans h.direction,
    h'.mode.trans h.mode, h'.isOpen.trans h.isOpen, ?_⟩
  intro held hheld hq
  have hfirst := h.quantity held hheld hq
  have hsecond := h'.quantity held (h.direction ▸ hheld) (hfirst.trans hq)
  exact hsecond.trans hfirst

/-- The positions a settled decision leaves, and the answers it leaves alone. -/
structure World.Grows (r : GapRequest) (w w' : World) : Prop where
  positions : Table.Evolves (PositionRow.Stays r) (fun _ => True) w.db.positions w'.db.positions
  answers : w.exchange.SameAnswers w'.exchange
  keyed : (w'.db.positions.map PositionRow.positionId).Nodup

section

variable {w w' w'' : World} {r : GapRequest} {e : GapEvidence}

theorem World.Grows.trans (h : w.Grows r w') (h' : w'.Grows r w'') : w.Grows r w'' :=
  ⟨Table.Evolves.trans (fun _ _ _ => PositionRow.Stays.trans) (fun _ _ _ _ => trivial) h.positions h'.positions,
    h.answers.trans h'.answers, h'.keyed⟩

theorem World.SameGround.grows (h : w.SameGround w') (hk : (w.db.positions.map PositionRow.positionId).Nodup) :
    w.Grows r w' := by
  refine ⟨?_, h.answers, h.positions ▸ hk⟩
  rw [h.positions]
  exact Table.Evolves.refl (PositionRow.Stays.refl r) _

/-- A closed gap stays closed while the positions grow. -/
theorem GapEvidence.Closed.grows (h : e.Closed r w) (hgrows : w.Grows r w') : e.Closed r w' := by
  cases h with
  | inexact h => exact .inexact h
  | projected p hp h =>
    obtain ⟨p', hp', hstays⟩ := hgrows.positions.successor hp
    exact .projected p' hp' (hstays.intent.trans h)
  | flat h => exact .flat h
  | unfilled d held h hfill => exact .unfilled d held h ((confirmedGapFill_congr hgrows.answers e d _).trans hfill)
  | whole d held h p hp hq =>
    have hslot : ∀ p p' : PositionRow, p.Stays r p' →
        (decide (p'.symbol = r.symbol ∧ p'.direction = d ∧ p'.executionMode = r.executionMode) && p'.isOpen) =
          (decide (p.symbol = r.symbol ∧ p.direction = d ∧ p.executionMode = r.executionMode) && p.isOpen) := by
      intro p p' hstays
      rw [hstays.symbol, hstays.direction, hstays.mode, hstays.isOpen]
    obtain ⟨p', hp', hstays⟩ := hgrows.positions.find hslot hp
    have hfound := List.find?_some hp
    simp only [Bool.and_eq_true, decide_eq_true_eq] at hfound
    have hquantity := hstays.quantity held (hfound.1.2.1 ▸ GapEvidence.held_direction h) hq
    exact .whole d held h p' hp' (hquantity.trans hq)

/-- The exchange confirms the protection of an adoption, and the database takes its facts. -/
def GapAdoption.Confirmed (a : GapAdoption) (w : World) (r : GapRequest) : Prop :=
  a.entryResult.positionProjectable = true ∧ ∃ plan result exchange db, a.plan w.db r = .ok plan ∧
    ensureProtection w.exchange plan = (.ok result, exchange) ∧ result.isActive = true ∧
    persistEntryAndProtection (a.drawn w.db r) (a.facts w.db r (some plan) (some result)) = .ok db

/-- The database takes the facts of an adoption that is not projected. -/
def GapAdoption.Absorbed (a : GapAdoption) (w : World) (r : GapRequest) : Prop :=
  ∃ db db', a.lowerQuantity w.db r = .ok db ∧ persistEntryAndProtection db (a.facts w.db r none none) = .ok db'

/-- The decision goes through, and its fill joins no open position. -/
def GapEvidence.Settles (e : GapEvidence) (r : GapRequest) (w : World) : Prop :=
  match decideGap w r e with
  | .error _ | .ok .blocked => False
  | .ok .skip => True
  | .ok .flat => ∃ outcome, (settleFlatGap w r e).1 = .ok outcome
  | .ok (.adopt a) =>
    if a.shouldProject w.db r then a.existing w.db r = none ∧ a.Confirmed w r else a.Absorbed w r

/-- The decision projects its fill. -/
def GapEvidence.projects (e : GapEvidence) (r : GapRequest) (w : World) : Bool :=
  match decideGap w r e with
  | .ok (.adopt a) => a.shouldProject w.db r
  | _ => false

/-- The branch without a position is never blocked. -/
theorem settleFlatGap_outcome {outcome : GapOutcome} (h : (settleFlatGap w r e).1 = .ok outcome) :
    outcome = .skipped ∨ outcome = .recovered := by
  unfold settleFlatGap at h
  dsimp only at h
  split at h
  · exact .inl (Except.ok.inj h).symm
  · split at h
    · nomatch h
    · split at h
      · split at h
        · nomatch h
        · exact .inr (Except.ok.inj h).symm
      · exact .inl (Except.ok.inj h).symm
    · exact .inl (Except.ok.inj h).symm

/-- An adoption that is projected adds a position of its intent, and its protection marks no other one. -/
theorem adoptGap_projects {a : GapAdoption} (hk : (w.db.positions.map PositionRow.positionId).Nodup)
    (hproject : a.shouldProject w.db r = true) (hnew : a.existing w.db r = none) (h : a.Confirmed w r) :
    (adoptGap w r a).1 = .ok .recovered ∧ w.Grows r (adoptGap w r a).2 ∧
      ∃ p ∈ (adoptGap w r a).2.db.positions, p.intentId = a.evidence.intentId ∧ p.executionMode = r.executionMode := by
  obtain ⟨hprojectable, plan, result, exchange, db, hplan, hensure, hactive, hpersist⟩ := h
  have hadopt : adoptGap w r a = (.ok .recovered, ⟨db, exchange⟩) := by
    unfold adoptGap
    rw [if_pos hproject, hplan]
    dsimp only
    rw [hensure]
    dsimp only
    rw [hactive, Bool.not_true, if_neg Bool.false_ne_true]
    unfold GapAdoption.persist
    rw [hpersist]
    rfl
  have hanswers : w.exchange.SameAnswers exchange := by
    have h := protectionAttempts_answers 2 2 plan [] w.exchange
    have hrun : protectionAttempts 2 2 plan [] w.exchange = (.ok result, exchange) := hensure
    rw [hrun] at h
    exact h
  rw [hadopt]
  obtain ⟨added, db₁, db₂, orderRecordId, -, hframe, hprojected, hprotect⟩ :=
    persistEntryAndProtection_frame hpersist hprojectable
  have hjoin : (a.facts w.db r (some plan) (some result)).allowExistingPositionAggregation = false := by
    unfold GapAdoption.facts
    rw [hnew]
    rfl
  obtain ⟨row, rfl, hfresh, hrowId, hrowIntent, hrowMode, hrowState⟩ := projectEntry_new hproject hjoin hprojected
  have hdrawn : (a.drawn w.db r).positions = w.db.positions := by
    unfold GapAdoption.drawn
    rw [hnew]
    rfl
  have hbefore : db₁.positions = w.db.positions := hframe.positions.trans hdrawn
  rw [hbefore] at hfresh
  have hlast : ∃ row', db.positions = w.db.positions ++ [row'] ∧ row'.positionId = row.positionId ∧
      row'.intentId = row.intentId ∧ row'.executionMode = row.executionMode := by
    obtain ⟨-, hpositions, -⟩ := saveEntryProtection_ok hprotect
    rcases hpositions with hsame | ⟨p, -, -, hmoved⟩
    · exact ⟨row, by rw [hsame, hbefore], rfl, rfl, rfl⟩
    · refine ⟨{ row with state := .isProtected, version := row.version + 1 }, ?_, rfl, rfl, rfl⟩
      rw [hmoved, hbefore, ← hrowId]
      exact Table.modify_append_singleton hfresh
  obtain ⟨row', hpositions, hid', hintent', hmode'⟩ := hlast
  refine ⟨rfl, ⟨?_, hanswers, ?_⟩, row', ?_, hintent'.trans hrowIntent, hmode'.trans hrowMode⟩
  · rw [hpositions]
    exact Table.evolves_insert (PositionRow.Stays.refl r) trivial
  · rw [hpositions, List.map_append, List.map_singleton]
    refine List.nodup_append.mpr ⟨hk, List.nodup_singleton _, ?_⟩
    intro id hid id' hid' heq
    obtain ⟨p, hp, rfl⟩ := List.mem_map.mp hid
    rw [List.mem_singleton.mp hid', ‹row'.positionId = row.positionId›] at heq
    exact hfresh p hp heq
  · rw [hpositions]
    exact List.mem_append_right _ (List.mem_singleton_self row')

/-- One row takes another quantity: every row stays, if it was not at the quantity of the exchange. -/
theorem lowered_evolves {rows : List PositionRow} (hk : (rows.map PositionRow.positionId).Nodup) {p : PositionRow}
    (hp : p ∈ rows)
    (hne : ∀ held, r.snapshot.positionOf r.symbol p.direction = some held → p.quantity ≠ held.quantity) (quantity : ℚ) :
    Table.Evolves (fun s s' => s.Stays r s' ∧ (s.positionId = p.positionId → s'.quantity = quantity)) (fun _ => True) rows
      (Table.modify PositionRow.positionId rows p.positionId fun s => { s with quantity }) := by
  refine ⟨fun s => if s.positionId = p.positionId then { s with quantity } else s, [], by simp [Table.modify], ?_,
    fun _ hr => absurd hr List.not_mem_nil⟩
  intro s hs
  beta_reduce
  by_cases hid : s.positionId = p.positionId
  · obtain rfl : s = p := List.inj_on_of_nodup_map hk hs hp hid
    rw [if_pos rfl]
    exact ⟨⟨rfl, rfl, rfl, rfl, rfl, rfl, fun held hheld heq => absurd heq (hne held hheld)⟩, fun _ => rfl⟩
  · rw [if_neg hid]
    exact ⟨PositionRow.Stays.refl r s, fun h => absurd h hid⟩

/-- The open position of an adoption that is not projected ends at the quantity of the exchange. -/
theorem GapAdoption.lowerQuantity_ok {a : GapAdoption} {held : ExchangePositionSnapshot}
    (hk : (w.db.positions.map PositionRow.positionId).Nodup) (hheld : r.snapshot.positionOf r.symbol a.direction = some held)
    (hquantity : a.exchangeQuantity = held.quantity) (hproject : a.shouldProject w.db r = false) {db : Database}
    (h : a.lowerQuantity w.db r = .ok db) :
    Table.Evolves (PositionRow.Stays r) (fun _ => True) w.db.positions db.positions ∧
      (db.positions.map PositionRow.positionId).Nodup ∧
      ∃ p, db.openPosition r.symbol a.direction r.executionMode = some p ∧ p.quantity = held.quantity := by
  cases hexisting : a.existing w.db r with
  | none =>
    unfold GapAdoption.shouldProject at hproject
    rw [hexisting] at hproject
    nomatch hproject
  | some p =>
    have hge : ¬p.quantity < a.exchangeQuantity := by
      unfold GapAdoption.shouldProject at hproject
      rw [hexisting] at hproject
      exact of_decide_eq_false hproject
    have hopen : w.db.openPosition r.symbol a.direction r.executionMode = some p := hexisting
    have hmem : p ∈ w.db.positions := List.mem_of_find?_eq_some hopen
    have hslot := List.find?_some hopen
    simp only [Bool.and_eq_true, decide_eq_true_eq] at hslot
    unfold GapAdoption.lowerQuantity at h
    rw [hexisting] at h
    dsimp only at h
    split at h
    · rename_i hgt
      have hget : w.db.position p.positionId = some p := Table.get_of_mem hk hmem
      unfold reconcilePositionQuantity at h
      split at h
      · nomatch h
      · rw [hget] at h
        dsimp only at h
        rw [if_neg (ne_of_gt hgt)] at h
        cases h
        have hne : ∀ held', r.snapshot.positionOf r.symbol p.direction = some held' → p.quantity ≠ held'.quantity := by
          intro held' hheld' heq
          rw [hslot.1.2.1, hheld] at hheld'
          cases hheld'
          rw [heq, hquantity] at hgt
          exact lt_irrefl _ hgt
        have hevolves := lowered_evolves hk hmem hne a.exchangeQuantity
        refine ⟨hevolves.mono (fun _ _ h => h.1) fun _ h => h, ?_, ?_⟩
        · have hkeys : (Table.modify PositionRow.positionId w.db.positions p.positionId fun q =>
              { q with quantity := a.exchangeQuantity }).map PositionRow.positionId =
              w.db.positions.map PositionRow.positionId := Table.map_modify fun _ => rfl
          exact hkeys ▸ hk
        · obtain ⟨p', hp', hstays⟩ := hevolves.find (q := fun q => decide (q.symbol = r.symbol ∧
            q.direction = a.direction ∧ q.executionMode = r.executionMode) && q.isOpen) (by
              intro q q' hq
              rw [hq.1.symbol, hq.1.direction, hq.1.mode, hq.1.isOpen]) hopen
          exact ⟨p', hp', (hstays.2 rfl).trans hquantity⟩
    · rename_i hle
      cases h
      have heq : p.quantity = a.exchangeQuantity := le_antisymm (not_lt.mp hle) (not_lt.mp hge)
      exact ⟨Table.Evolves.refl (PositionRow.Stays.refl r) _, hk, p, hopen, heq.trans hquantity⟩

/-- An adoption that is not projected leaves the open position at the quantity of the exchange. -/
theorem adoptGap_absorbs {a : GapAdoption} {held : ExchangePositionSnapshot}
    (hk : (w.db.positions.map PositionRow.positionId).Nodup) (hheld : e.held r = some (a.direction, held))
    (hquantity : a.exchangeQuantity = held.quantity) (hproject : a.shouldProject w.db r = false) (h : a.Absorbed w r) :
    (adoptGap w r a).1 = .ok .recovered ∧ w.Grows r (adoptGap w r a).2 ∧ e.Closed r (adoptGap w r a).2 := by
  obtain ⟨db, db', hlower, hpersist⟩ := h
  have hadopt : adoptGap w r a = (.ok .recovered, ⟨db', w.exchange⟩) := by
    unfold adoptGap
    rw [hproject, hlower, if_neg Bool.false_ne_true, transaction_ok]
    dsimp only
    unfold GapAdoption.persist
    rw [hpersist]
    rfl
  have hpositions : db'.positions = db.positions := persistEntryAndProtection_positions hproject rfl hpersist
  obtain ⟨hevolves, hkeys, p, hopen, hp⟩ :=
    GapAdoption.lowerQuantity_ok hk (GapEvidence.held_direction hheld) hquantity hproject hlower
  rw [hadopt]
  refine ⟨rfl, ⟨?_, Exchange.SameAnswers.refl _, ?_⟩, .whole a.direction held hheld p ?_ hp⟩
  · rw [hpositions]
    exact hevolves
  · rw [hpositions]
    exact hkeys
  · unfold Database.openPosition at hopen ⊢
    rw [hpositions]
    exact hopen

/-- What a settled decision leaves. -/
structure GapEvidence.Settled (e : GapEvidence) (r : GapRequest) (w : World) : Prop where
  goesOn : (recoverEntryGap w r e).1 = .ok .skipped ∨ (recoverEntryGap w r e).1 = .ok .recovered
  grows : w.Grows r (recoverEntryGap w r e).2
  closed : e.Closed r (recoverEntryGap w r e).2
  projected : e.projects r w = true →
    ∃ p ∈ (recoverEntryGap w r e).2.db.positions, p.intentId = e.intentId ∧ p.executionMode = r.executionMode

theorem GapEvidence.Settles.settled (h : e.Settles r w) (hk : (w.db.positions.map PositionRow.positionId).Nodup) :
    e.Settled r w := by
  unfold GapEvidence.Settles at h
  split at h
  · exact h.elim
  · exact h.elim
  · rename_i hdecide
    have hstep : recoverEntryGap w r e = (.ok .skipped, w) := by
      unfold recoverEntryGap
      rw [hdecide]
    have hclosed : e.Closed r w := by
      rcases decideGap_skip hdecide with hexact | ⟨p, hp, hid⟩ | ⟨d, held, hheld, hfill⟩
      · exact .inexact hexact
      · exact .projected p hp hid
      · exact .unfilled d held hheld hfill
    refine ⟨?_, ?_, ?_, ?_⟩
    · exact .inl (by rw [hstep])
    · rw [hstep]
      exact (World.SameGround.refl w).grows hk
    · rw [hstep]
      exact hclosed
    · unfold GapEvidence.projects
      rw [hdecide]
      exact nofun
  · rename_i hdecide
    obtain ⟨outcome, hout⟩ := h
    have hstep : recoverEntryGap w r e = settleFlatGap w r e := by
      unfold recoverEntryGap
      rw [hdecide]
    refine ⟨?_, ?_, .flat (decideGap_flat hdecide), ?_⟩
    · rw [hstep, hout]
      rcases settleFlatGap_outcome hout with rfl | rfl
      · exact .inl rfl
      · exact .inr rfl
    · rw [hstep]
      exact (settleFlatGap_ground w r e).grows hk
    · unfold GapEvidence.projects
      rw [hdecide]
      exact nofun
  · rename_i a hdecide
    obtain ⟨rfl, -, held, hheld, hquantity, -⟩ := decideGap_adopt hdecide
    have hstep : recoverEntryGap w r a.evidence = adoptGap w r a := by
      unfold recoverEntryGap
      rw [hdecide]
    split at h
    · rename_i hproject
      obtain ⟨hout, hgrows, p, hp, hid, hmode⟩ := adoptGap_projects hk hproject h.1 h.2
      refine ⟨?_, ?_, ?_, ?_⟩
      · exact .inr (hstep ▸ hout)
      · rw [hstep]
        exact hgrows
      · rw [hstep]
        exact .projected p hp hid
      · rw [hstep]
        exact fun _ => ⟨p, hp, hid, hmode⟩
    · rename_i hproject
      obtain ⟨hout, hgrows, hclosed⟩ := adoptGap_absorbs hk hheld hquantity (Bool.eq_false_of_not_eq_true hproject) h
      refine ⟨?_, ?_, ?_, ?_⟩
      · exact .inr (hstep ▸ hout)
      · rw [hstep]
        exact hgrows
      · rw [hstep]
        exact hclosed
      · unfold GapEvidence.projects
        rw [hdecide]
        exact fun hprojects => absurd hprojects hproject

end

end TradingPlatform
