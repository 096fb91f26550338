import TradingPlatform.Lemmas.Persistence
import TradingPlatform.Lib.Budget

/-!
# Where a committed risk comes from

A commitment is a position that is active or an intent that still reserves. The lemmas say which commitments there are, that
no intent has two of them in one mode, and where each commitment after an operation comes from.
-/

namespace TradingPlatform

section

variable {db db' : Database} {mode : V2ExecutionMode}

theorem mem_activePositions {p : PositionRow} :
    p ∈ db.activePositions mode ↔ p ∈ db.positions ∧ p.executionMode = mode ∧ p.state.active = true := by
  simp [Database.activePositions, List.mem_filter]

theorem mem_reservingIntents {r : IntentRow} :
    r ∈ db.reservingIntents mode ↔ r ∈ db.intents ∧ r.executionMode = mode ∧ r.state.active = true ∧
      (∀ p ∈ db.positions, p.executionMode = mode → p.intentId ≠ r.intentId) ∧ isExitKey r.candidateKey = false := by
  simp [Database.reservingIntents, List.mem_filter, and_assoc]

theorem mem_commitments {c : Commitment} :
    c ∈ db.commitments mode ↔
      (∃ p ∈ db.activePositions mode, db.positionCommitment p = c) ∨ ∃ r ∈ db.reservingIntents mode, r.commitment = c := by
  simp [Database.commitments]

/-- An active intent without a position reserves. -/
theorem reserving_of_free {id : String} {r : IntentRow} (hr : db.intent id = some r) (hmode : r.executionMode = mode)
    (hactive : r.state.active = true) (hkey : isExitKey r.candidateKey = false)
    (hfree : ∀ q ∈ db.positions, q.intentId ≠ id) : r ∈ db.reservingIntents mode := by
  obtain ⟨hmem, hid⟩ := Table.get_some hr
  refine mem_reservingIntents.mpr ⟨hmem, hmode, hactive, ?_, hkey⟩
  intro q hq _ hqid
  exact hfree q hq (hqid.trans hid)

/-- In one mode an intent has at most one commitment. -/
theorem Database.Keyed.commitments_nodup (hk : db.Keyed) (mode : V2ExecutionMode) :
    ((db.commitments mode).map Commitment.intentId).Nodup := by
  have hpositions : ((db.activePositions mode).map PositionRow.intentId).Nodup :=
    hk.positionIntents.sublist (List.filter_sublist.map _)
  have hintents : ((db.reservingIntents mode).map IntentRow.intentId).Nodup := hk.intents.sublist (List.filter_sublist.map _)
  unfold Database.commitments
  rw [List.map_append, List.map_map, List.map_map]
  refine List.nodup_append.mpr ⟨hpositions, hintents, ?_⟩
  intro x hx y hy hxy
  obtain ⟨p, hp, rfl⟩ := List.mem_map.mp hx
  obtain ⟨r, hr, rfl⟩ := List.mem_map.mp hy
  obtain ⟨hpmem, hpmode, -⟩ := mem_activePositions.mp hp
  obtain ⟨-, -, -, hfree, -⟩ := mem_reservingIntents.mp hr
  exact hfree p hpmem hpmode hxy

/-- What is read of an intent after an operation. -/
theorem Effect.intent_some {s : Scope} (h : Effect s db db') {id : String} {r : IntentRow} (hr : db.intent id = some r) :
    ∃ r', db'.intent id = some r' ∧ IntentKept s r r' := by
  obtain ⟨hmem, rfl⟩ := Table.get_some hr
  obtain ⟨r', hmem', hkept⟩ := h.intents.successor hmem
  have hget : db'.intent r'.intentId = some r' := Table.get_of_mem h.keyed.intents hmem'
  rw [hkept.id] at hget
  exact ⟨r', hget, hkept⟩

/-- Every position has the intent it was projected for. -/
def Database.Backed (db : Database) : Prop := ∀ p ∈ db.positions, (db.intent p.intentId).isSome = true

/-- A terminal guess that a confirmed fill corrects. -/
def V2IntentState.correctable (s : V2IntentState) : Bool := decide (s = .cancelled ∨ s = .expired)

theorem V2IntentState.active_of_live {s : V2IntentState} (hrejected : s ≠ .rejected) (hlive : s.correctable = false) :
    s.active = true := by
  cases s with
  | rejected => exact absurd rfl hrejected
  | cancelled => nomatch hlive
  | expired => nomatch hlive
  | _ => rfl

/-- An inactive intent that a fill reconciles was a terminal guess. -/
theorem correctable_of_reconciled {s : V2IntentState}
    (h : s = .filled ∨ s = .exchangeAcknowledged ∨ s = .cancelled ∨ s = .expired) (hs : s.active = false) :
    s.correctable = true := by
  rcases h with rfl | rfl | rfl | rfl
  · nomatch hs
  · nomatch hs
  · rfl
  · rfl

/-- Where a commitment comes from: it was there before, under the same symbol and direction; or a new position took over; or a
new intent reserved it; or the operation brought an intent back. -/
inductive CommitmentOrigin (s : Scope) (db db' : Database) (mode : V2ExecutionMode) (c : Commitment) : Prop where
  | kept (c₀ : Commitment) (hmem : c₀ ∈ db.commitments mode) (hid : c₀.intentId = c.intentId)
      (hsymbol : c₀.symbol = c.symbol) (hdirection : c₀.direction = c.direction)
      (hrisk : c.risk = c₀.risk ∨ (c₀.risk = none ∧ s.prices c.intentId))
  | handedOver (p : PositionRow) (hmem : p ∈ db'.positions) (hnew : s.newPosition p) (hmode : p.executionMode = mode)
      (hc : c = db'.positionCommitment p) (hfree : ∀ q ∈ db.positions, q.intentId ≠ p.intentId)
  | reserved (r : IntentRow) (hmem : r ∈ db'.intents) (hnew : s.newIntent r) (hmode : r.executionMode = mode)
      (hkey : isExitKey r.candidateKey = false) (hc : c = r.commitment)
      (hfresh : ∀ q ∈ db.intents, q.intentId ≠ r.intentId)
  | revived (hid : s.revives c.intentId) (r : IntentRow) (hr : r ∈ db.intents) (hc : r.intentId = c.intentId)
      (hstate : r.state.active = false)

/-- A position's commitment after an operation. -/
theorem positionCommitment_origin {s : Scope} (hb : db.Backed) (h : Effect s db db') {p' : PositionRow}
    (hp : p' ∈ db'.activePositions mode) : CommitmentOrigin s db db' mode (db'.positionCommitment p') := by
  obtain ⟨hmem, hmode, hactive⟩ := mem_activePositions.mp hp
  rcases h.positions.origin (fun _ _ hkept => hkept.intent) h.keyed.positionIntents hmem with ⟨p, hpmem, hkept⟩ | ⟨hnew, hfree⟩
  · have hpactive : p ∈ db.activePositions mode :=
      mem_activePositions.mpr ⟨hpmem, hkept.mode.symm.trans hmode, hkept.active hactive⟩
    refine .kept (db.positionCommitment p) (mem_commitments.mpr (.inl ⟨p, hpactive, rfl⟩)) hkept.intent.symm
      hkept.symbol.symm hkept.direction.symm ?_
    obtain ⟨r, hr⟩ := Option.isSome_iff_exists.mp (hb p hpmem)
    obtain ⟨r', hr', hr'kept⟩ := h.intent_some hr
    unfold Database.positionCommitment
    simp only [hkept.intent, hr, hr', Option.bind_some]
    rcases hr'kept.risk with hrisk | ⟨hnone, hprices⟩
    · exact .inl hrisk
    · exact .inr ⟨hnone, (Table.get_some hr).2 ▸ hprices⟩
  · exact .handedOver p' hmem hnew hmode rfl hfree

/-- An intent's commitment after an operation. -/
theorem intentCommitment_origin {s : Scope} (h : Effect s db db') {r' : IntentRow} (hr : r' ∈ db'.reservingIntents mode) :
    CommitmentOrigin s db db' mode r'.commitment := by
  obtain ⟨hmem, hmode, hactive, hfree, hkey⟩ := mem_reservingIntents.mp hr
  rcases h.intents.origin (fun _ _ hkept => hkept.id) h.keyed.intents hmem with ⟨r, hrmem, hkept⟩ | ⟨hnew, hfresh⟩
  · have hid : r.intentId = r'.commitment.intentId := hkept.id.symm
    cases hstate : r.state.active with
    | true =>
      have hreserving : r ∈ db.reservingIntents mode := by
        refine mem_reservingIntents.mpr ⟨hrmem, hkept.mode.symm.trans hmode, hstate, ?_, hkept.key ▸ hkey⟩
        intro p hp hpmode hpid
        obtain ⟨p', hp', hpkept⟩ := h.positions.successor hp
        exact hfree p' hp' (hpkept.mode.trans hpmode) ((hpkept.intent.trans hpid).trans hkept.id.symm)
      refine .kept r.commitment (mem_commitments.mpr (.inr ⟨r, hreserving, rfl⟩)) hkept.id.symm hkept.symbol.symm
        hkept.direction.symm ?_
      rcases hkept.risk with hrisk | ⟨hnone, hprices⟩
      · exact .inl hrisk
      · exact .inr ⟨hnone, hid ▸ hprices⟩
    | false =>
      rcases hkept.active hactive with hwas | hrevives
      · rw [hstate] at hwas
        nomatch hwas
      · exact .revived (hid ▸ hrevives) r hrmem hid hstate
  · exact .reserved r' hmem hnew hmode hkey rfl hfresh

theorem commitment_origin {s : Scope} (hb : db.Backed) (h : Effect s db db') {c : Commitment} (hc : c ∈ db'.commitments mode) :
    CommitmentOrigin s db db' mode c := by
  rcases mem_commitments.mp hc with ⟨p, hp, rfl⟩ | ⟨r, hr, rfl⟩
  · exact positionCommitment_origin hb h hp
  · exact intentCommitment_origin h hr

end

/-! ## Positions are backed by intents -/

theorem persistEntryAndProtection_backed {db db' : Database} {a : EntryFacts} (hk : db.Keyed)
    (h : persistEntryAndProtection db a = .ok db') (hp : a.entryResult.positionProjectable = true) :
    (db'.intent a.intentId).isSome = true := by
  rcases persistEntryAndProtection_ok h with ⟨hnot, -⟩ | ⟨-, db₁, db₂, db₃, db₄, db₅, db₆, intent, orderRecordId, hframe,
    hintent, hfound, hack, hsame, hreconcile, hprojected, hprotect⟩
  · rw [hp] at hnot
    nomatch hnot
  · have h₁ : Effect {} db db₁ := hframe.effect hk
    have h₂ := ensureEntryIntent_effect h₁.keyed hintent
    have h₃ := acknowledgeIntent_effect h₂.keyed hack
    have h₄ : Effect {} db₃ db₄ := hsame.effect h₃.keyed
    have h₅ := reconcileIntentFromConfirmedFill_effect h₄.keyed hreconcile
    have h₆ : Effect (a.scope True) db₅ db₆ := projectEntry_effect h₅.keyed hprojected
    have h₇ := saveEntryProtection_effect h₆.keyed hprotect
    obtain ⟨r₃, hr₃, -⟩ := h₃.intent_some hfound
    obtain ⟨r₄, hr₄, -⟩ := h₄.intent_some hr₃
    obtain ⟨r₅, hr₅, -⟩ := h₅.intent_some hr₄
    obtain ⟨r₆, hr₆, -⟩ := h₆.intent_some hr₅
    obtain ⟨r₇, hr₇, -⟩ := h₇.intent_some hr₆
    rw [hr₇]
    rfl

/-- A position that an operation adds has its intent. -/
theorem PersistOp.newPosition_backed {db : Database} (hk : db.Keyed) {op : PersistOp} {p : PositionRow}
    (hmem : p ∈ (op.apply db).positions) (hnew : (op.scope db).newPosition p)
    (hfree : ∀ q ∈ db.positions, q.intentId ≠ p.intentId) : ((op.apply db).intent p.intentId).isSome = true := by
  cases op with
  | entryAndProtection a =>
    obtain ⟨-, hid, -⟩ := hnew
    rcases PersistOp.entryAndProtection_cases db a with hsame | ⟨hp, hres⟩
    · rw [hsame] at hmem
      exact absurd rfl (hfree p hmem)
    · rw [hid]
      exact persistEntryAndProtection_backed hk hres hp
  | _ => exact hnew.elim

theorem PersistOp.apply_backed {db : Database} (hk : db.Keyed) (hb : db.Backed) (op : PersistOp) : (op.apply db).Backed := by
  have heffect := op.apply_effect hk
  intro p' hp'
  rcases heffect.positions.origin (fun _ _ hkept => hkept.intent) heffect.keyed.positionIntents hp' with
    ⟨p, hp, hkept⟩ | ⟨hnew, hfree⟩
  · obtain ⟨r, hr⟩ := Option.isSome_iff_exists.mp (hb p hp)
    obtain ⟨r', hr', -⟩ := heffect.intent_some hr
    rw [hkept.intent, hr']
    rfl
  · exact PersistOp.newPosition_backed hk hp' hnew hfree

end TradingPlatform
