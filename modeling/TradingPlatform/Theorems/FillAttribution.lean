import Mathlib.Data.List.Dedup
import TradingPlatform.Lib.Budget
import TradingPlatform.Lemmas.Adjudication

/-!
# Attribution of a fill

Over any order of preparing and finalizing, a position is finalized once, what is finalized was prepared by everyone its manifest
declares, and the allocations of a finalized manifest are the fill. A database knows the cases it has prepared and no others:
two manifests of one trade are kept apart where they share a database. A stored quantity is read back as the session of a call
gives it: finalizing again can find it changed and raise, and changes nothing all the same.
-/

namespace TradingPlatform

variable {calls : AdjudicationCall → Prop} {w : Participants} {d : String}

section

variable (h : AdjudicationHash)

/-- The databases a manifest declares. -/
def AdjudicationManifest.declared (m : AdjudicationManifest) : List String :=
  m.allocations.map AllocationSpec.databaseIdentity

/-- A participant has prepared a manifest with the evidence: its case and each of its allocations carry both hashes. -/
def Participant.HasPrepared (m : AdjudicationManifest) (e : ExchangeAggregateExitEvidence) (d : String) (p : Participant) :
    Prop :=
  ∃ c ∈ p.cases, c.manifestHash = h.manifestHash m.payload ∧ c.evidenceHash = h.evidenceHash e.payload ∧
    c.exchangeOrderId = m.exchangeOrderId ∧ c.exchangeTradeId = m.exchangeTradeId ∧
    ∀ item ∈ m.participant d, ∃ a ∈ p.allocations, a.adjudicationId = c.adjudicationId ∧ a.databaseIdentity = d ∧
      a.positionId = item.positionId ∧ a.manifestHash = h.manifestHash m.payload ∧
      a.evidenceHash = h.evidenceHash e.payload ∧ quantize (p.read a.allocatedQuantity) = quantize item.allocatedQuantity.value

/-- The finalizations of an exchange trade. -/
def Participant.attributed (p : Participant) (exchangeOrderId exchangeTradeId : String) : List FinalizationRow :=
  p.db.finalizations.filter fun f => decide (f.exchangeOrderId = exchangeOrderId ∧ f.exchangeTradeId = exchangeTradeId)

/-- What the databases a manifest declares have attributed of its trade. -/
def Participants.attributedTotal (w : Participants) (m : AdjudicationManifest) : ℚ :=
  (m.declared.dedup.map fun d =>
    (((w d).attributed m.exchangeOrderId m.exchangeTradeId).map FinalizationRow.allocatedQuantity).sum).sum

/-- A finalization returns. -/
def Participants.finalizes (w : Participants) : AdjudicationOp → Prop
  | .prepare .. => False
  | .finalize manifest databaseIdentities evidenceProvider _ =>
    (finalizeAdjudication h (w.sessions databaseIdentities) manifest evidenceProvider).1 = .ok ()

/-- All finalizations of one exchange trade, in whatever database, are of one manifest. -/
def SingleManifest (w : Participants) : Prop :=
  ∀ d d' f f', f ∈ (w d).db.finalizations → f' ∈ (w d').db.finalizations → f.exchangeOrderId = f'.exchangeOrderId →
    f.exchangeTradeId = f'.exchangeTradeId → f.manifestHash = f'.manifestHash

/-- The hash tells the manifests of calls apart. -/
def NoCollision (calls : AdjudicationCall → Prop) : Prop :=
  ∀ c c', calls c → calls c' → h.manifestHash c.op.manifest.payload = h.manifestHash c'.op.manifest.payload →
    c.op.manifest.payload = c'.op.manifest.payload

/-- A finalization is the part of a manifest that everyone the manifest declares has prepared. -/
def Participants.Sourced (w : Participants) (d : String) (f : FinalizationRow) (m : AdjudicationManifest) : Prop :=
  ∃ e, f.manifestHash = h.manifestHash m.payload ∧ f.evidenceHash = h.evidenceHash e.payload ∧
    f.exchangeOrderId = m.exchangeOrderId ∧ f.exchangeTradeId = m.exchangeTradeId ∧
    (∃ item ∈ m.participant d, f.positionId = item.positionId ∧ f.allocatedQuantity = item.allocatedQuantity.value) ∧
    ∀ d' ∈ m.declared, (w d').HasPrepared h m e d'

/-- What holds of the attribution of fills after a run. -/
structure FillAttribution (start : Participants) (calls : List AdjudicationCall) : Prop where
  /-- A position is finalized at most once. -/
  once : ∀ d, ((start.run h calls d).db.finalizations.map FinalizationRow.positionId).Nodup
  /-- What is finalized is part of a manifest of the run. -/
  sourced : ∀ d, ∀ f ∈ (start.run h calls d).db.finalizations,
    ∃ c ∈ calls, ((start.run h calls).reading c.read).Sourced h d f c.op.manifest
  /-- Two manifests that share a database are not both finalized for one trade. -/
  single : ∀ d d' f f' m m' read read', f ∈ (start.run h calls d).db.finalizations →
    f' ∈ (start.run h calls d').db.finalizations → f.exchangeOrderId = f'.exchangeOrderId →
    f.exchangeTradeId = f'.exchangeTradeId → ((start.run h calls).reading read).Sourced h d f m →
    ((start.run h calls).reading read').Sourced h d' f' m' → (∃ shared, shared ∈ m.declared ∧ shared ∈ m'.declared) →
    f.manifestHash = f'.manifestHash ∧ f.evidenceHash = f'.evidenceHash
  /-- A manifest that was finalized has its fill attributed, in the databases it declares. -/
  conserved : ∀ earlier c later, calls = earlier ++ c :: later → ((start.run h earlier).reading c.read).finalizes h c.op →
    quantize ((start.run h calls).attributedTotal c.op.manifest) = quantize c.op.manifest.exchangeFillQuantity.value
  /-- Finalizing again changes nothing, whatever its sessions read. -/
  repeats : ∀ earlier c later, calls = earlier ++ c :: later → ((start.run h earlier).reading c.read).finalizes h c.op →
    ∀ read, ((start.run h calls).reading read).step h c.op = (start.run h calls).reading read

end

namespace FillAttributionAux

variable {h : AdjudicationHash} {m : AdjudicationManifest} {e : ExchangeAggregateExitEvidence}

theorem mem_declared : d ∈ m.declared ↔ m.participant d ≠ [] := by
  constructor
  · intro hd hempty
    obtain ⟨item, hitem, rfl⟩ := List.mem_map.mp hd
    have hmem : item ∈ m.participant item.databaseIdentity := List.mem_filter.mpr ⟨hitem, by simp⟩
    rw [hempty] at hmem
    exact List.not_mem_nil hmem
  · intro hne
    obtain ⟨item, hitem⟩ := List.exists_mem_of_ne_nil _ hne
    obtain ⟨hmem, hidentity⟩ := List.mem_filter.mp hitem
    exact List.mem_map.mpr ⟨item, hmem, of_decide_eq_true hidentity⟩

theorem hasPrepared_of_preflight {p : Participant} {d id : String} (hok : preflightParticipant h m e d p = .ok id) :
    p.HasPrepared h m e d := by
  obtain ⟨-, c, hc, hid, hmanifest, hevidence, horder, htrade, -, hmembers⟩ := preflightParticipant_eq_ok.mp hok
  simp only [sameMembers, Bool.and_eq_true, List.all_eq_true, decide_eq_true_eq] at hmembers
  refine ⟨c, (Table.get_some hc).1, hmanifest, hevidence, horder, htrade, fun item hitem => ?_⟩
  obtain ⟨a, ha, hsame⟩ := List.mem_map.mp (hmembers.1 _ (List.mem_map_of_mem hitem))
  obtain ⟨hmem, hkeys⟩ := List.mem_filter.mp ha
  obtain ⟨hcase, hdatabase⟩ := of_decide_eq_true hkeys
  obtain ⟨hposition, hquantity, hmanifest', hevidence'⟩ : a.positionId = item.positionId ∧
      quantize (p.read a.allocatedQuantity) = quantize item.allocatedQuantity.value ∧
      a.manifestHash = h.manifestHash m.payload ∧ a.evidenceHash = h.evidenceHash e.payload := by simpa using hsame
  exact ⟨a, hmem, hcase.trans hid.symm, hdatabase, hposition, hmanifest', hevidence', hquantity⟩

/-! ## What a call keeps of a participant -/

/-- What stays of a participant, whatever its session reads: the manifests it has prepared, the finalizations it has recorded, the positions that are
closed. -/
structure Grows (h : AdjudicationHash) (p p' : Participant) : Prop where
  preflight : ∀ read m e d id, m.participant d ≠ [] → preflightParticipant h m e d { p with read } = .ok id →
    preflightParticipant h m e d { p' with read } = .ok id
  finalized : ∀ id positionId, (p.finalization id positionId).isSome = true → (p'.finalization id positionId).isSome = true
  closed : ∀ id position, p.db.position id = some position → position.state = .closed →
    ∃ position', p'.db.position id = some position' ∧ position'.state = .closed

theorem Grows.refl (p : Participant) : Grows h p p :=
  ⟨fun _ _ _ _ _ _ hok => hok, fun _ _ hf => hf, fun _ position hp hc => ⟨position, hp, hc⟩⟩

theorem Grows.trans {p p' p'' : Participant} (hfirst : Grows h p p') (hsecond : Grows h p' p'') : Grows h p p'' := by
  refine ⟨fun read m e d id hd hok => hsecond.preflight read m e d id hd (hfirst.preflight read m e d id hd hok),
    fun id positionId hf => hsecond.finalized id positionId (hfirst.finalized id positionId hf), fun id position hp hc => ?_⟩
  obtain ⟨position', hp', hc'⟩ := hfirst.closed id position hp hc
  exact hsecond.closed id position' hp' hc'

theorem Grows.of_extends {p p' : Participant} (hext : p.Extends p') : Grows h p p' := by
  refine ⟨fun read m e d id hd hok => preflightParticipant_extends (hext.reading read) hd hok, fun id positionId hf => ?_,
    fun id position hp hc => ⟨position, by rw [hext.db]; exact hp, hc⟩⟩
  rw [Participant.finalization, hext.db]
  exact hf

/-- The position of an allocation that is applied is closed. -/
theorem apply_position (s : FinalizableParticipant) (item : AllocationSpec) (id : String) :
    (s.apply h m e item).db.position id = if id = item.positionId then
      (s.participant.db.position id).map fun p => { p with state := .closed, version := p.version + 1 }
    else s.participant.db.position id := by
  split
  · rename_i heq
    rw [heq]
    exact Table.get_modify_self fun _ => rfl
  · rename_i hne
    exact Table.get_modify_other (fun _ => rfl) hne

theorem apply_finalizations (s : FinalizableParticipant) (item : AllocationSpec) :
    (s.apply h m e item).db.finalizations =
      s.participant.db.finalizations ++ [(item.attribution h m e s.databaseIdentity s.adjudicationId).row] := rfl

theorem Grows.of_apply (s : FinalizableParticipant) (item : AllocationSpec) :
    Grows h s.participant (s.apply h m e item) := by
  refine ⟨fun read m' e' d id hd hok => ?_, fun id positionId hf => ?_, fun id position hp hc => ?_⟩
  · rw [preflightParticipant_congr rfl rfl rfl]
    exact hok
  · obtain ⟨f, hf⟩ := Option.isSome_iff_exists.mp hf
    rw [Participant.finalization] at hf
    rw [Participant.finalization, apply_finalizations, List.find?_append, hf]
    rfl
  · rw [apply_position]
    split
    · exact ⟨_, by rw [hp]; rfl, rfl⟩
    · exact ⟨position, hp, hc⟩

/-! ## What a call leaves of a participant -/

/-- The finalizations of a participant are of distinct positions, and those are closed. -/
structure Final (p : Participant) : Prop where
  closed : ∀ f ∈ p.db.finalizations, ∃ position, p.db.position f.positionId = some position ∧ position.state = .closed
  once : (p.db.finalizations.map FinalizationRow.positionId).Nodup

/-- What the loop over the allocations of a manifest leaves: new finalizations, of its allocations. -/
structure Attributes (h : AdjudicationHash) (m : AdjudicationManifest) (e : ExchangeAggregateExitEvidence) (d id : String)
    (p p' : Participant) : Prop where
  grows : Grows h p p'
  cases : p'.cases = p.cases
  new : ∀ f ∈ p'.db.finalizations, f ∈ p.db.finalizations ∨
    ∃ item ∈ m.participant d, f = (item.attribution h m e d id).row
  final : Final p → Final p'

theorem attributes_apply {p p' : Participant} {d id : String} {item : AllocationSpec} (hitem : item ∈ m.participant d)
    (happlies : (FinalizableParticipant.mk d id p').applies m item = true) (hattributes : Attributes h m e d id p p') :
    Attributes h m e d id p ((FinalizableParticipant.mk d id p').apply h m e item) := by
  have hgrows : Grows h p' ((FinalizableParticipant.mk d id p').apply h m e item) :=
    Grows.of_apply (FinalizableParticipant.mk d id p') item
  refine ⟨hattributes.grows.trans hgrows, hattributes.cases, fun f hf => ?_, fun hfinal => ?_⟩
  · rw [apply_finalizations] at hf
    rcases List.mem_append.mp hf with hold | hnew
    · exact hattributes.new f hold
    · exact .inr ⟨item, hitem, List.mem_singleton.mp hnew⟩
  · obtain ⟨hclosed, honce⟩ := hattributes.final hfinal
    simp only [FinalizableParticipant.applies, Bool.and_eq_true, Option.any_eq_true, decide_eq_true_eq] at happlies
    obtain ⟨⟨-, position, hposition, hquarantined, -⟩, -⟩ := happlies
    refine ⟨fun f hf => ?_, ?_⟩
    · rw [apply_finalizations] at hf
      rcases List.mem_append.mp hf with hold | hnew
      · obtain ⟨found, hfound, hstate⟩ := hclosed f hold
        exact hgrows.closed _ found hfound hstate
      · rw [List.mem_singleton.mp hnew, apply_position]
        simp [HistoricalAttribution.row, AllocationSpec.attribution, hposition]
    · rw [apply_finalizations, List.map_append, List.map_singleton]
      refine List.nodup_append.mpr ⟨honce, List.nodup_singleton _, fun x hx y hy heq => ?_⟩
      -- a position that is finalized is closed, and this one is quarantined
      obtain ⟨f, hf, rfl⟩ := List.mem_map.mp hx
      obtain ⟨found, hfound, hstate⟩ := hclosed f hf
      have hsame : f.positionId = item.positionId := heq.trans (List.mem_singleton.mp hy)
      rw [hsame, hposition] at hfound
      cases hfound
      rw [hstate] at hquarantined
      cases hquarantined

theorem finalizeAllocations_attributes (p : Participant) (d id : String) :
    Attributes h m e d id p (finalizeAllocations h m e d id (m.participant d) p).2 := by
  refine finalizeAllocations_keeps (Q := Attributes h m e d id p) (fun p' item hitem happlies hattributes => ?_)
    ⟨Grows.refl p, rfl, fun f hf => .inl hf, fun hfinal => hfinal⟩
  exact attributes_apply hitem happlies hattributes

theorem apply_finalization {s : FinalizableParticipant} {item : AllocationSpec}
    (hnone : s.participant.finalization s.adjudicationId item.positionId = none) :
    (s.apply h m e item).finalization s.adjudicationId item.positionId =
      some (item.attribution h m e s.databaseIdentity s.adjudicationId).row := by
  rw [Participant.finalization] at hnone
  rw [Participant.finalization, apply_finalizations, List.find?_append, hnone, Option.none_or]
  simp [HistoricalAttribution.row, AllocationSpec.attribution]

/-- A loop over the allocations that returns has finalized the position of each. -/
theorem finalized_of_ok {d id : String} {items : List AllocationSpec} {p : Participant}
    (hok : (finalizeAllocations h m e d id items p).1 = .ok ()) :
    ∀ item ∈ items, ((finalizeAllocations h m e d id items p).2.finalization id item.positionId).isSome = true := by
  induction items generalizing p with
  | nil => exact fun _ hitem => absurd hitem List.not_mem_nil
  | cons item rest ih =>
    have hgrows : ∀ p, Grows h p (finalizeAllocations h m e d id rest p).2 := by
      intro p
      exact finalizeAllocations_keeps (Q := Grows h p) (fun p' item' _ _ hp => hp.trans (Grows.of_apply (.mk d id p') item'))
        (.refl p)
    simp only [finalizeAllocations] at hok ⊢
    rcases finalizeAllocation_cases h m e ⟨d, id, p⟩ item with ⟨hrecorded, hsame⟩ | ⟨happlies, happlied⟩ | ⟨-, error, herror⟩
    · rw [hsame] at hok ⊢
      simp only [FinalizableParticipant.recorded, Bool.and_eq_true, Option.any_eq_true] at hrecorded
      obtain ⟨-, f, hf, -⟩ := hrecorded
      exact List.forall_mem_cons.mpr ⟨(hgrows p).finalized id item.positionId (Option.isSome_iff_exists.mpr ⟨f, hf⟩), ih hok⟩
    · rw [happlied] at hok ⊢
      simp only [FinalizableParticipant.applies, Bool.and_eq_true, Option.isNone_iff_eq_none] at happlies
      have hnew := @apply_finalization h m e ⟨d, id, p⟩ item happlies.1.1
      exact List.forall_mem_cons.mpr
        ⟨(hgrows _).finalized id item.positionId (Option.isSome_iff_exists.mpr ⟨_, hnew⟩), ih hok⟩
    · rw [herror] at hok
      cases hok

/-! ## What a call leaves of the databases -/

/-- Everyone a manifest declares passes its preflight. -/
def Agreed (h : AdjudicationHash) (w : Participants) (m : AdjudicationManifest) (e : ExchangeAggregateExitEvidence) : Prop :=
  ∀ d ∈ m.declared, ∃ id, preflightParticipant h m e d (w d) = .ok id

/-- What the preflight of a call on some databases says. -/
theorem agreed_of_preflight {w : Participants} {ids : List String} {provide : EvidenceProvider}
    {participants : List FinalizableParticipant}
    (hok : finalizePreflight h (w.sessions ids) m provide = .ok (e, participants)) :
    m.Sound ∧ (∀ d, d ∈ ids ↔ d ∈ m.declared) ∧ participants.map FinalizableParticipant.databaseIdentity = ids.dedup ∧
      ∀ s ∈ participants, s.participant = w s.databaseIdentity ∧
        preflightParticipant h m e s.databaseIdentity (w s.databaseIdentity) = .ok s.adjudicationId := by
  obtain ⟨-, hvalid, hmembers, hsessions⟩ := finalizePreflight_ok hok
  have hnames : (w.sessions ids).map Prod.fst = ids.dedup := by
    simp [Participants.sessions, Function.comp_def]
  rw [hnames] at hmembers
  simp only [sameMembers, Bool.and_eq_true, List.all_eq_true, decide_eq_true_eq, List.mem_dedup] at hmembers
  have hzip : ∀ {l : List String} {l' : List FinalizableParticipant},
      List.Forall₂ (fun (s : String × Participant) x => x.databaseIdentity = s.1 ∧ x.participant = s.2 ∧
        preflightParticipant h m e s.1 s.2 = .ok x.adjudicationId) (l.map fun d => (d, w d)) l' →
      l'.map FinalizableParticipant.databaseIdentity = l ∧ ∀ s ∈ l', s.participant = w s.databaseIdentity ∧
        preflightParticipant h m e s.databaseIdentity (w s.databaseIdentity) = .ok s.adjudicationId := by
    intro l
    induction l with
    | nil =>
      rintro l' ⟨⟩
      exact ⟨rfl, fun _ hs => absurd hs List.not_mem_nil⟩
    | cons d l ih =>
      rintro l' (_ | ⟨hfirst, hrest⟩)
      obtain ⟨hmap, hall⟩ := ih hrest
      obtain ⟨hname, hparticipant, hpreflight⟩ := hfirst
      refine ⟨by rw [List.map_cons, hmap, hname], List.forall_mem_cons.mpr ⟨⟨?_, ?_⟩, hall⟩⟩
      · rw [hname, hparticipant]
      · rw [hname, hpreflight]
  obtain ⟨hmap, hall⟩ := hzip hsessions
  refine ⟨validateManifest_sound hvalid, fun d => ⟨fun hd => ?_, fun hd => ?_⟩, hmap, hall⟩
  · exact hmembers.1 d hd
  · exact hmembers.2 d hd

theorem agreed_of_participants {participants : List FinalizableParticipant} {ids : List String}
    (hdeclared : ∀ d, d ∈ ids ↔ d ∈ m.declared) (hnames : participants.map FinalizableParticipant.databaseIdentity = ids.dedup)
    (hall : ∀ s ∈ participants, s.participant = w s.databaseIdentity ∧
      preflightParticipant h m e s.databaseIdentity (w s.databaseIdentity) = .ok s.adjudicationId) : Agreed h w m e := by
  intro d hd
  have hmem : d ∈ participants.map FinalizableParticipant.databaseIdentity := by
    rw [hnames, List.mem_dedup]
    exact (hdeclared d).mpr hd
  obtain ⟨s, hs, rfl⟩ := List.mem_map.mp hmem
  exact ⟨_, (hall s hs).2⟩

/-- A database after sessions are written: as it was, or as one of the sessions holds it. -/
theorem write_cases (w : Participants) (sessions : List (String × Participant)) (kept : String → Bool) (d : String) :
    w.write sessions kept d = w d ∨ (d, w.write sessions kept d) ∈ sessions := by
  unfold Participants.write
  cases hfind : sessions.find? fun s => decide (s.1 = d) with
  | none => exact .inl rfl
  | some s =>
    cases hkept : kept d with
    | false => exact .inl (by simp [Option.filter])
    | true =>
      have hname : s.1 = d := by simpa using List.find?_some hfind
      refine .inr ?_
      have hs : s ∈ sessions := List.mem_of_find?_eq_some hfind
      simpa [Option.filter, ← hname] using hs

/-- What a call leaves of a database: what it was, what preparing leaves, or what the loop over the allocations of a manifest
leaves that everyone agrees on. -/
theorem step_cases (w : Participants) (op : AdjudicationOp) (d : String) :
    w.step h op d = w d ∨ (w d).Extends (w.step h op d) ∨
      ∃ e id, Agreed h w op.manifest e ∧ d ∈ op.manifest.declared ∧
        preflightParticipant h op.manifest e d (w d) = .ok id ∧ w.step h op d =
          (finalizeAllocations h op.manifest e d id (op.manifest.participant d) (w d)).2 := by
  cases op with
  | prepare m d' provide =>
    cases hprepared : prepareAdjudication h (w d') m d' provide with
    | error error => exact .inl (by simp [Participants.step, hprepared])
    | ok prepared =>
      have hstep : w.step h (.prepare m d' provide) = Function.update w d' prepared.2 := by
        simp [Participants.step, hprepared]
      rw [hstep]
      by_cases hd : d = d'
      · subst hd
        rw [Function.update_self]
        exact .inr (.inl (prepareAdjudication_extends hprepared))
      · rw [Function.update_of_ne hd]
        exact .inl rfl
  | finalize m ids provide kept =>
    have hstep : ∃ kept', w.step h (.finalize m ids provide kept) =
        w.write (finalizeAdjudication h (w.sessions ids) m provide).2 kept' := by
      simp only [Participants.step]
      split
      · rename_i sessions hrun
        exact ⟨fun _ => true, by rw [hrun]⟩
      · rename_i error sessions hrun
        exact ⟨kept, by rw [hrun]⟩
    obtain ⟨kept', hstep⟩ := hstep
    rw [hstep]
    rcases write_cases w (finalizeAdjudication h (w.sessions ids) m provide).2 kept' d with hsame | hmem
    · exact .inl hsame
    · generalize w.write (finalizeAdjudication h (w.sessions ids) m provide).2 kept' d = p at hmem ⊢
      unfold finalizeAdjudication at hmem
      cases hpreflight : finalizePreflight h (w.sessions ids) m provide with
      | error error =>
        rw [hpreflight] at hmem
        obtain ⟨d', -, heq⟩ := List.mem_map.mp hmem
        cases heq
        exact .inl rfl
      | ok plan =>
        obtain ⟨e, participants⟩ := plan
        rw [hpreflight] at hmem
        obtain ⟨-, hdeclared, hnames, hall⟩ := agreed_of_preflight hpreflight
        obtain ⟨s, hs, hname, hresult⟩ := finalizeParticipants_mem hmem
        obtain rfl : s.databaseIdentity = d := hname
        obtain ⟨hparticipant, hpass⟩ := hall s hs
        rw [hparticipant] at hresult
        rcases hresult with hsame | hloop
        · exact .inl hsame
        · have hmem' : s.databaseIdentity ∈ m.declared := by
            refine (hdeclared _).mp (List.mem_dedup.mp ?_)
            rw [← hnames]
            exact List.mem_map_of_mem hs
          exact .inr (.inr ⟨e, s.adjudicationId, agreed_of_participants hdeclared hnames hall, hmem', hpass, hloop⟩)

/-! ## Runs -/

/-- Two cases that the constraints keep apart. -/
def CasesApart (c c' : AdjudicationCase) : Prop :=
  c.adjudicationId ≠ c'.adjudicationId ∧ (c.exchangeOrderId ≠ c'.exchangeOrderId ∨ c.exchangeTradeId ≠ c'.exchangeTradeId)

instance : Std.Symm CasesApart where
  symm _ _ h := ⟨h.1.symm, h.2.imp Ne.symm Ne.symm⟩

/-- Where a finalization comes from: an allocation of a manifest that everyone agrees on, under the case of its database. -/
def ComesFrom (h : AdjudicationHash) (w : Participants) (d : String) (f : FinalizationRow) (m : AdjudicationManifest)
    (e : ExchangeAggregateExitEvidence) : Prop :=
  (∃ item ∈ m.participant d, f = (item.attribution h m e d f.adjudicationId).row) ∧
    preflightParticipant h m e d (w d) = .ok f.adjudicationId ∧ Agreed h w m e

/-- What a run keeps of the databases, for the manifests of its calls. -/
structure Attributed (h : AdjudicationHash) (calls : AdjudicationCall → Prop) (w : Participants) : Prop where
  cases : ∀ d, (w d).cases.Pairwise CasesApart
  origin : ∀ d, ∀ f ∈ (w d).db.finalizations, ∃ c e, calls c ∧ ComesFrom h (w.reading c.read) d f c.op.manifest e
  final : ∀ d, Final (w d)

theorem Agreed.grows {w w' : Participants} (hgrows : ∀ d, Grows h (w d) (w' d)) {read : String → ℚ → ℚ}
    (hagreed : Agreed h (w.reading read) m e) : Agreed h (w'.reading read) m e := by
  intro d hd
  obtain ⟨id, hok⟩ := hagreed d hd
  exact ⟨id, (hgrows d).preflight (read d) m e d id (mem_declared.mp hd) hok⟩

theorem ComesFrom.grows {w w' : Participants} (hgrows : ∀ d, Grows h (w d) (w' d)) {read : String → ℚ → ℚ} {f : FinalizationRow}
    (hfrom : ComesFrom h (w.reading read) d f m e) : ComesFrom h (w'.reading read) d f m e := by
  obtain ⟨⟨item, hitem, hrow⟩, hok, hagreed⟩ := hfrom
  exact ⟨⟨item, hitem, hrow⟩, (hgrows d).preflight (read d) m e d _ (List.ne_nil_of_mem hitem) hok, hagreed.grows hgrows⟩

theorem grows_step (w : Participants) (op : AdjudicationOp) (d : String) : Grows h (w d) (w.step h op d) := by
  rcases step_cases w op d with hsame | hext | ⟨e, id, -, -, -, hloop⟩
  · rw [hsame]
    exact .refl _
  · exact .of_extends hext
  · rw [hloop]
    exact (finalizeAllocations_attributes (w d) d id).grows

/-- A call keeps what a participant has, whatever is read of it later. -/
theorem grows_call (w : Participants) (c : AdjudicationCall) (d : String) : Grows h (w d) (w.call h c d) := by
  have hreading : Grows h (w d) (w.reading c.read d) :=
    ⟨fun _ _ _ _ _ _ hok => hok, fun _ _ hf => hf, fun _ position hp hc => ⟨position, hp, hc⟩⟩
  exact hreading.trans (grows_step (w.reading c.read) c.op d)

theorem Attributed.call (hw : Attributed h calls w) {c : AdjudicationCall} (hc : calls c) : Attributed h calls (w.call h c) := by
  have hgrows := fun d => grows_call (h := h) w c d
  have hold : ∀ d f, f ∈ (w d).db.finalizations →
      ∃ c' e, calls c' ∧ ComesFrom h ((w.call h c).reading c'.read) d f c'.op.manifest e := by
    intro d f hf
    obtain ⟨c', e, hc', hfrom⟩ := hw.origin d f hf
    exact ⟨c', e, hc', hfrom.grows hgrows⟩
  have hcases := fun d => step_cases (h := h) (w.reading c.read) c.op d
  refine ⟨fun d => ?_, fun d f hf => ?_, fun d => ?_⟩
  · change ((w.reading c.read).step h c.op d).cases.Pairwise CasesApart
    rcases hcases d with hsame | hext | ⟨e, id, -, -, -, hloop⟩
    · rw [hsame]
      exact hw.cases d
    · rcases hext.cases with hsame | ⟨new, hnew, hfresh⟩
      · rw [hsame]
        exact hw.cases d
      · rw [hnew, List.pairwise_append]
        refine ⟨hw.cases d, List.pairwise_singleton _ _, fun c₀ hc₀ c' hc' => ?_⟩
        rw [List.mem_singleton.mp hc']
        exact ⟨(hfresh c₀ hc₀).1, (hfresh c₀ hc₀).2.2⟩
    · rw [hloop, (finalizeAllocations_attributes (w.reading c.read d) d id).cases]
      exact hw.cases d
  · change f ∈ ((w.reading c.read).step h c.op d).db.finalizations at hf
    rcases hcases d with hsame | hext | ⟨e, id, hagreed, hd, hok, hloop⟩
    · rw [hsame] at hf
      exact hold d f hf
    · rw [hext.db] at hf
      exact hold d f hf
    · rw [hloop] at hf
      rcases (finalizeAllocations_attributes (w.reading c.read d) d id).new f hf with hbefore | ⟨item, hitem, rfl⟩
      · exact hold d f hbefore
      · exact ⟨c, e, hc, ⟨item, hitem, rfl⟩, (hgrows d).preflight (c.read d) _ e d id (mem_declared.mp hd) hok,
          hagreed.grows hgrows⟩
  · change Final ((w.reading c.read).step h c.op d)
    have hfinal : Final (w.reading c.read d) := ⟨(hw.final d).closed, (hw.final d).once⟩
    rcases hcases d with hsame | hext | ⟨e, id, -, -, -, hloop⟩
    · rw [hsame]
      exact hfinal
    · refine ⟨?_, ?_⟩
      · rw [hext.db]
        exact hfinal.closed
      · rw [hext.db]
        exact hfinal.once
    · rw [hloop]
      exact (finalizeAllocations_attributes (w.reading c.read d) d id).final hfinal

theorem attributed_run (hw : Attributed h calls w)
    {run : List AdjudicationCall} (hrun : ∀ c ∈ run, calls c) : Attributed h calls (w.run h run) := by
  induction run generalizing w with
  | nil => exact hw
  | cons c rest ih =>
    rw [List.forall_mem_cons] at hrun
    exact ih (hw.call hrun.1) hrun.2

theorem grows_run (w : Participants) (run : List AdjudicationCall) (d : String) : Grows h (w d) (w.run h run d) := by
  induction run generalizing w with
  | nil => exact .refl _
  | cons c rest ih => exact (grows_call w c d).trans (ih (w.call h c))

/-! ## A manifest that was finalized -/

/-- Everyone a manifest declares agreed on it and has finalized the positions of its allocations. -/
def Settled (h : AdjudicationHash) (w : Participants) (m : AdjudicationManifest) (e : ExchangeAggregateExitEvidence) : Prop :=
  ∀ d ∈ m.declared, ∃ id, (∃ read, preflightParticipant h m e d { w d with read } = .ok id) ∧
    ∀ item ∈ m.participant d, ((w d).finalization id item.positionId).isSome = true

theorem Settled.grows {w w' : Participants} (hgrows : ∀ d, Grows h (w d) (w' d)) (hsettled : Settled h w m e) :
    Settled h w' m e := by
  intro d hd
  obtain ⟨id, ⟨read, hok⟩, hfinalized⟩ := hsettled d hd
  exact ⟨id, ⟨read, (hgrows d).preflight read m e d id (mem_declared.mp hd) hok⟩,
    fun item hitem => (hgrows d).finalized id item.positionId (hfinalized item hitem)⟩

/-- A finalization that returns settles its manifest. -/
theorem settled_of_finalizes {w : Participants} {ids : List String} {provide : EvidenceProvider} {kept : String → Bool}
    (hok : w.finalizes h (.finalize m ids provide kept)) :
    ∃ e, validateManifest m e = .ok () ∧ Settled h (w.step h (.finalize m ids provide kept)) m e := by
  have hstep : w.step h (.finalize m ids provide kept) =
      w.write (finalizeAdjudication h (w.sessions ids) m provide).2 fun _ => true := by
    simp only [Participants.finalizes] at hok
    simp only [Participants.step]
    split
    · rename_i sessions hrun
      rw [hrun]
    · rename_i error sessions hrun
      rw [hrun] at hok
      cases hok
  rw [hstep]
  simp only [Participants.finalizes, finalizeAdjudication] at hok ⊢
  cases hpreflight : finalizePreflight h (w.sessions ids) m provide with
  | error error =>
    rw [hpreflight] at hok
    cases hok
  | ok plan =>
    obtain ⟨e, participants⟩ := plan
    rw [hpreflight] at hok
    obtain ⟨-, hvalid, -⟩ := finalizePreflight_ok hpreflight
    obtain ⟨-, hdeclared, hnames, hall⟩ := agreed_of_preflight hpreflight
    obtain ⟨hmap, hloops⟩ := finalizeParticipants_of_ok hok
    refine ⟨e, hvalid, fun d hd => ?_⟩
    have hmem : d ∈ participants.map FinalizableParticipant.databaseIdentity := by
      rw [hnames, List.mem_dedup]
      exact (hdeclared d).mpr hd
    obtain ⟨s, hs, rfl⟩ := List.mem_map.mp hmem
    obtain ⟨hparticipant, hpass⟩ := hall s hs
    have hwritten : w.write (finalizeParticipants h m e participants).2 (fun _ => true) s.databaseIdentity =
        (finalizeAllocations h m e s.databaseIdentity s.adjudicationId (m.participant s.databaseIdentity)
          (w s.databaseIdentity)).2 := by
      rw [hmap, Participants.write, List.find?_map]
      have hfind : participants.find? ((fun x : String × Participant => decide (x.1 = s.databaseIdentity)) ∘ fun s =>
          (s.databaseIdentity, (finalizeAllocations h m e s.databaseIdentity s.adjudicationId
            (m.participant s.databaseIdentity) s.participant).2)) = some s := by
        have hnd : (participants.map FinalizableParticipant.databaseIdentity).Nodup := hnames ▸ List.nodup_dedup ids
        exact Table.get_of_mem hnd hs
      rw [hfind, ← hparticipant]
      rfl
    rw [hwritten]
    have hloop := hloops s hs
    rw [hparticipant] at hloop
    refine ⟨s.adjudicationId, ⟨(w s.databaseIdentity).read, ?_⟩, finalized_of_ok hloop⟩
    exact (finalizeAllocations_attributes (w s.databaseIdentity) s.databaseIdentity s.adjudicationId).grows.preflight _ m e _ _
      (mem_declared.mp hd) hpass

/-- Finalizing a settled manifest again changes nothing, whether the stored quantities are read back as they were or not. -/
theorem step_of_settled {w : Participants} {ids : List String} {provide : EvidenceProvider} {kept : String → Bool}
    (hsettled : Settled h w m e) : w.step h (.finalize m ids provide kept) = w := by
  have hrun : (finalizeAdjudication h (w.sessions ids) m provide).2 = w.sessions ids := by
    unfold finalizeAdjudication
    cases hpreflight : finalizePreflight h (w.sessions ids) m provide with
    | error error => rfl
    | ok plan =>
      obtain ⟨e', participants⟩ := plan
      obtain ⟨-, -, hnames, hall⟩ := agreed_of_preflight hpreflight
      refine (finalizeParticipants_of_finalized fun s hs item hitem => ?_).trans ?_
      · obtain ⟨hparticipant, hpass⟩ := hall s hs
        obtain ⟨id, ⟨read, hok⟩, hfinalized⟩ := hsettled _ (mem_declared.mpr (List.ne_nil_of_mem hitem))
        -- the case of the manifest is the one it was settled under
        obtain ⟨-, c, hc, hid, -⟩ := preflightParticipant_eq_ok.mp hpass
        obtain ⟨-, c', hc', hid', -⟩ := preflightParticipant_eq_ok.mp hok
        obtain rfl : c = c' := Option.some.inj (hc.symm.trans hc')
        rw [hparticipant, ← hid, hid']
        exact hfinalized item hitem
      · unfold Participants.sessions
        rw [← hnames, List.map_map]
        exact List.map_congr_left fun s hs => congrArg (Prod.mk s.databaseIdentity) (hall s hs).1
  obtain ⟨kept', hstep⟩ : ∃ kept', w.step h (.finalize m ids provide kept) = w.write (w.sessions ids) kept' := by
    simp only [Participants.step]
    split
    · rename_i sessions hreturned
      rw [hreturned] at hrun
      exact ⟨fun _ => true, congrArg (fun sessions => w.write sessions fun _ => true) hrun⟩
    · rename_i error sessions hraised
      rw [hraised] at hrun
      exact ⟨kept, congrArg (fun sessions => w.write sessions kept) hrun⟩
  rw [hstep]
  funext d
  rcases write_cases w (w.sessions ids) kept' d with hsame | hmem
  · exact hsame
  · obtain ⟨d', -, heq⟩ := List.mem_map.mp hmem
    obtain ⟨rfl, hvalue⟩ := Prod.mk.inj heq
    exact hvalue.symm

/-! ## One case a trade -/

/-- A database has one case of an id, and one of a trade. -/
theorem same_case (hw : Attributed h calls w) {c c' : AdjudicationCase} (hc : c ∈ (w d).cases) (hc' : c' ∈ (w d).cases)
    (hsame : c.adjudicationId = c'.adjudicationId ∨
      c.exchangeOrderId = c'.exchangeOrderId ∧ c.exchangeTradeId = c'.exchangeTradeId) : c = c' := by
  by_contra hne
  obtain ⟨hid, htrade⟩ := (hw.cases d).forall hc hc' hne
  rcases hsame with heq | ⟨horder, heq⟩
  · exact hid heq
  · exact htrade.elim (fun hne => hne horder) fun hne => hne heq

/-- A finalization comes from the manifest whose case has its id, and so do its hash and its trade. -/
theorem ComesFrom.case {w : Participants} {d : String} {f : FinalizationRow} (hfrom : ComesFrom h w d f m e) :
    ∃ c ∈ (w d).cases, c.adjudicationId = f.adjudicationId ∧ c.manifestHash = f.manifestHash ∧
      c.exchangeOrderId = f.exchangeOrderId ∧ c.exchangeTradeId = f.exchangeTradeId := by
  obtain ⟨⟨item, hitem, hrow⟩, hok, -⟩ := hfrom
  obtain ⟨-, c, hc, hid, hmanifest, hevidence, horder, htrade, -⟩ := preflightParticipant_eq_ok.mp hok
  rw [hrow]
  exact ⟨c, (Table.get_some hc).1, by rw [hid, hrow]; rfl, hmanifest, horder, htrade⟩

theorem ComesFrom.sourced {w : Participants} {d : String} {f : FinalizationRow} (hfrom : ComesFrom h w d f m e) :
    w.Sourced h d f m := by
  obtain ⟨⟨item, hitem, hrow⟩, -, hagreed⟩ := hfrom
  rw [hrow]
  refine ⟨e, rfl, rfl, rfl, rfl, ⟨item, hitem, rfl, rfl⟩, fun d' hd' => ?_⟩
  obtain ⟨id, hok⟩ := hagreed d' hd'
  exact hasPrepared_of_preflight hok

/-- Manifests with one payload declare the same allocations of a database. -/
theorem mem_participant_of_payload {m m' : AdjudicationManifest} (hpayload : m.payload = m'.payload)
    {item : AllocationSpec} (hitem : item ∈ m.participant d) : item ∈ m'.participant d := by
  have hsorted : m.allocations.insertionSort AllocationSpec.before = m'.allocations.insertionSort AllocationSpec.before :=
    congrArg ManifestPayload.allocations hpayload
  obtain ⟨hmem, hidentity⟩ := List.mem_filter.mp hitem
  refine List.mem_filter.mpr ⟨?_, hidentity⟩
  rw [← List.mem_insertionSort AllocationSpec.before, ← hsorted, List.mem_insertionSort]
  exact hmem

/-- In a database that a settled manifest declares, the finalizations of its trade are its allocations. -/
theorem attributed_perm (hw : Attributed h calls w) (hcollision : NoCollision h calls) {call : AdjudicationCall}
    (hcall : calls call) (hm : call.op.manifest = m) (hsound : m.Sound) (hsettled : Settled h w m e) (hd : d ∈ m.declared) :
    ((w d).attributed m.exchangeOrderId m.exchangeTradeId).map (fun f => (f.positionId, f.allocatedQuantity)) |>.Perm
      ((m.participant d).map fun item => (item.positionId, item.allocatedQuantity.value)) := by
  obtain ⟨id, ⟨read, hok⟩, hfinalized⟩ := hsettled d hd
  obtain ⟨-, c, hcase, hid, hmanifest, -, horder, htrade, -⟩ := preflightParticipant_eq_ok.mp hok
  have hc : c ∈ (w d).cases := (Table.get_some hcase).1
  -- a finalization under the case of the manifest is one of its allocations
  have hown : ∀ f ∈ (w d).db.finalizations, (∀ c' ∈ (w d).cases, c'.adjudicationId = f.adjudicationId → c' = c) →
      ∃ item ∈ m.participant d, f.positionId = item.positionId ∧ f.allocatedQuantity = item.allocatedQuantity.value := by
    intro f hf hcaseOf
    obtain ⟨call', e', hcall', hfrom⟩ := hw.origin d f hf
    obtain ⟨c', hc', hid', hmanifest', -, -⟩ := hfrom.case
    obtain rfl := hcaseOf c' hc' hid'
    obtain ⟨⟨item, hitem, hrow⟩, -⟩ := hfrom
    have hhash : h.manifestHash call'.op.manifest.payload = h.manifestHash call.op.manifest.payload := by
      have hfhash : f.manifestHash = h.manifestHash call'.op.manifest.payload := by rw [hrow]; rfl
      rw [← hfhash, ← hmanifest', hmanifest, hm]
    refine ⟨item, mem_participant_of_payload (hm ▸ hcollision call' call hcall' hcall hhash) hitem, ?_, ?_⟩
    · rw [hrow]
      rfl
    · rw [hrow]
      rfl
  have hrows : ((w d).attributed m.exchangeOrderId m.exchangeTradeId).map (fun f => (f.positionId, f.allocatedQuantity)) |>.Nodup := by
    have hpositions : (((w d).attributed m.exchangeOrderId m.exchangeTradeId).map FinalizationRow.positionId).Nodup :=
      (hw.final d).once.sublist (List.Sublist.map _ List.filter_sublist)
    refine List.Nodup.of_map Prod.fst ?_
    rwa [List.map_map]
  have hitems : ((m.participant d).map fun item => (item.positionId, item.allocatedQuantity.value)).Nodup := by
    refine List.Nodup.of_map Prod.fst ?_
    rw [List.map_map]
    exact hsound.participant_nodup d
  refine (List.perm_ext_iff_of_nodup hrows hitems).mpr fun x => ⟨fun hx => ?_, fun hx => ?_⟩
  · obtain ⟨f, hf, rfl⟩ := List.mem_map.mp hx
    obtain ⟨hmem, hkeys⟩ := List.mem_filter.mp hf
    obtain ⟨hforder, hftrade⟩ := of_decide_eq_true hkeys
    obtain ⟨call', e', -, hfrom⟩ := hw.origin d f hmem
    obtain ⟨c', hc', hid', -, horder', htrade'⟩ := hfrom.case
    obtain rfl : c = c' := same_case hw hc hc'
      (.inr ⟨horder.trans (hforder.symm.trans horder'.symm), htrade.trans (hftrade.symm.trans htrade'.symm)⟩)
    obtain ⟨item, hitem, hposition, hquantity⟩ := hown f hmem fun c'' hc'' hid'' =>
      same_case hw hc'' hc (.inl (hid''.trans hid'.symm))
    exact List.mem_map.mpr ⟨item, hitem, by rw [hposition, hquantity]⟩
  · obtain ⟨item, hitem, rfl⟩ := List.mem_map.mp hx
    obtain ⟨f, hf⟩ := Option.isSome_iff_exists.mp (hfinalized item hitem)
    have hmem : f ∈ (w d).db.finalizations := List.mem_of_find?_eq_some hf
    obtain ⟨hfid, hfposition⟩ : f.adjudicationId = id ∧ f.positionId = item.positionId := by simpa using List.find?_some hf
    have hcaseOf : ∀ c'' ∈ (w d).cases, c''.adjudicationId = f.adjudicationId → c'' = c := fun c'' hc'' hid'' =>
      same_case hw hc'' hc (.inl (hid''.trans (hfid.trans hid.symm)))
    obtain ⟨item', hitem', hposition', hquantity'⟩ := hown f hmem hcaseOf
    obtain rfl : item' = item :=
      List.inj_on_of_nodup_map (hsound.participant_nodup d) hitem' hitem (hposition'.symm.trans hfposition)
    obtain ⟨call', e', -, hfrom⟩ := hw.origin d f hmem
    obtain ⟨c', hc', hid', -, horder', htrade'⟩ := hfrom.case
    obtain rfl := hcaseOf c' hc' hid'
    refine List.mem_map.mpr ⟨f, List.mem_filter.mpr ⟨hmem, decide_eq_true ⟨?_, ?_⟩⟩, ?_⟩
    · exact horder'.symm.trans horder
    · exact htrade'.symm.trans htrade
    · rw [hposition', hquantity']

/-- The databases that a settled manifest declares have attributed its allocations. -/
theorem attributedTotal_of_settled (hw : Attributed h calls w) (hcollision : NoCollision h calls) {call : AdjudicationCall}
    (hcall : calls call) (hm : call.op.manifest = m) (hsound : m.Sound) (hsettled : Settled h w m e) :
    w.attributedTotal m = allocatedTotal m.allocations := by
  have hgroup : ∀ d ∈ m.declared.dedup,
      (((w d).attributed m.exchangeOrderId m.exchangeTradeId).map FinalizationRow.allocatedQuantity).sum =
        ((m.participant d).map fun item => item.allocatedQuantity.value).sum := by
    intro d hd
    have hperm := (attributed_perm hw hcollision hcall hm hsound hsettled (List.mem_dedup.mp hd)).map Prod.snd
    rw [List.map_map, List.map_map] at hperm
    exact hperm.sum_eq
  calc w.attributedTotal m = (m.declared.dedup.map fun d =>
        ((m.participant d).map fun item => item.allocatedQuantity.value).sum).sum := by
        rw [Participants.attributedTotal, List.map_congr_left hgroup]
    _ = allocatedTotal m.allocations :=
        Budget.sum_by_key AllocationSpec.databaseIdentity (fun item => item.allocatedQuantity.value) (List.nodup_dedup _)
          fun item hitem => List.mem_dedup.mpr (List.mem_map_of_mem hitem)

end FillAttributionAux

open FillAttributionAux

/-- The attribution of fills over every run of calls, from databases that have finalized nothing. -/
theorem fillAttribution_run (h : AdjudicationHash) (databases : String → Database)
    (hnew : ∀ d, (databases d).finalizations = []) (calls : List AdjudicationCall) (hcollision : NoCollision h (· ∈ calls)) :
    FillAttribution h (fun d => { db := databases d }) calls := by
  obtain ⟨start, hstart⟩ : ∃ start : Participants, start = fun d => { db := databases d } := ⟨_, rfl⟩
  rw [← hstart]
  have hclean : Attributed h (· ∈ calls) start := by
    rw [hstart]
    refine ⟨fun d => List.Pairwise.nil, fun d f hf => ?_, fun d => ⟨fun f hf => ?_, ?_⟩⟩
    · exact absurd hf (by simp [hnew])
    · exact absurd hf (by simp [hnew])
    · simp [hnew]
  have hend := attributed_run hclean fun c hc => hc
  have hsettled : ∀ earlier c later, calls = earlier ++ c :: later → ((start.run h earlier).reading c.read).finalizes h c.op →
      ∃ ids provide kept e, c.op = .finalize c.op.manifest ids provide kept ∧ validateManifest c.op.manifest e = .ok () ∧
        Settled h (start.run h calls) c.op.manifest e := by
    rintro earlier ⟨op, read⟩ later rfl hok
    cases op with
    | prepare manifest d provide => exact hok.elim
    | finalize manifest ids provide kept =>
      obtain ⟨e, hvalid, hdone⟩ := settled_of_finalizes hok
      refine ⟨ids, provide, kept, e, rfl, hvalid, ?_⟩
      have hrun : start.run h (earlier ++ ⟨.finalize manifest ids provide kept, read⟩ :: later) =
          ((start.run h earlier).call h ⟨.finalize manifest ids provide kept, read⟩).run h later := by
        simp [Participants.run, List.foldl_append]
      rw [hrun]
      exact hdone.grows (grows_run _ later)
  refine ⟨fun d => (hend.final d).once, fun d f hf => ?_, ?_, ?_, ?_⟩
  · obtain ⟨c, e, hc, hfrom⟩ := hend.origin d f hf
    exact ⟨c, hc, hfrom.sourced⟩
  · rintro d d' f f' m m' read read' - - horder htrade ⟨e, hhash, hevidence, hforder, hftrade, -, hprepared⟩
      ⟨e', hhash', hevidence', hforder', hftrade', -, hprepared'⟩ ⟨shared, hshared, hshared'⟩
    obtain ⟨c, hc, hcm, hce, hco, hct, -⟩ := hprepared shared hshared
    obtain ⟨c', hc', hcm', hce', hco', hct', -⟩ := hprepared' shared hshared'
    obtain rfl : c = c' := same_case hend hc hc'
      (.inr ⟨by rw [hco, hco', ← hforder, ← hforder', horder], by rw [hct, hct', ← hftrade, ← hftrade', htrade]⟩)
    exact ⟨by rw [hhash, hhash', ← hcm, ← hcm'], by rw [hevidence, hevidence', ← hce, ← hce']⟩
  · intro earlier c later hcalls hok
    obtain ⟨ids, provide, kept, e, -, hvalid, hdone⟩ := hsettled earlier c later hcalls hok
    have hsound := validateManifest_sound hvalid
    have hc : c ∈ calls := by simp [hcalls]
    rw [attributedTotal_of_settled hend hcollision hc rfl hsound hdone]
    exact hsound.total
  · intro earlier c later hcalls hok read
    obtain ⟨ids, provide, kept, e, hfinalize, -, hdone⟩ := hsettled earlier c later hcalls hok
    rw [hfinalize]
    exact step_of_settled hdone

/-! ## Two exits of one trade -/

/-- Evidence of the fill of a manifest. -/
def AdjudicationManifest.evidence (m : AdjudicationManifest) : ExchangeAggregateExitEvidence :=
  { exchangeOrderId := m.exchangeOrderId, exchangeTradeId := m.exchangeTradeId, symbol := m.symbol,
    side := m.exchangeFillSide, reduceOnly := true, executedQuantity := m.exchangeFillQuantity,
    tradeQuantity := m.exchangeFillQuantity, price := m.exchangeFillPrice, exchangeEventTime := m.exchangeFillTimestamp,
    verificationReference := "binance-read" }

/-- A manifest that attributes trade 7. -/
def tradeExit (adjudicationId operatorReason : String) (exchangeFillQuantity : PyDecimal) (allocations : List AllocationSpec) :
    AdjudicationManifest :=
  { adjudicationId := adjudicationId, symbol := "ETHUSDT", exchangeOrderId := "1001", exchangeTradeId := "7",
    exchangeFillQuantity := exchangeFillQuantity, exchangeFillSide := "SELL", exchangeFillPrice := ⟨2000, 0⟩,
    exchangeFillTimestamp := 0, operatorIdentity := "operator", operatorReason := operatorReason, allocations := allocations,
    accountScopeKey := "account" }

/-- Every database has a quarantined long position of its own. -/
def quarantinedDatabase (d : String) : Database :=
  { positions :=
      [{ positionId := d ++ "-1", intentId := "i", orderRecordId := "o", symbol := "ETHUSDT", direction := .long,
         executionMode := .binanceTestnet, quantity := 1, entryPrice := 1900, entryFee := 0, state := .quarantined }] }

/-- Every database that a manifest declares prepares it, and all finalize it. -/
def AdjudicationManifest.attribution (m : AdjudicationManifest) : List AdjudicationCall :=
  (m.declared.map fun d => { op := .prepare m d (some fun _ _ _ => .ok m.evidence) }) ++
    [{ op := .finalize m m.declared (fun _ _ _ => .ok m.evidence) fun _ => true }]

theorem manifest_of_mem_attribution {m : AdjudicationManifest} {c : AdjudicationCall} (hc : c ∈ m.attribution) :
    c.op.manifest = m := by
  rcases List.mem_append.mp hc with hprepare | hfinalize
  · obtain ⟨d, -, rfl⟩ := List.mem_map.mp hprepare
    rfl
  · rw [List.mem_singleton.mp hfinalize]
    rfl

/-- The databases before anything is prepared. -/
def quarantined : Participants := fun d => { db := quarantinedDatabase d }

/-- An exit of two databases is attributed to both. -/
theorem twoDatabases_attributed :
    let m := tradeExit "adj-1" "aggregate exit" ⟨2, 0⟩ [⟨"paper", "paper-1", ⟨1, 0⟩⟩, ⟨"testnet", "testnet-1", ⟨1, 0⟩⟩]
    FillAttribution tradeHash quarantined m.attribution ∧
      (quarantined.run tradeHash m.attribution).attributedTotal m = 2 := by
  intro m
  refine ⟨fillAttribution_run tradeHash quarantinedDatabase (fun _ => rfl) m.attribution ?_, by decide +kernel⟩
  intro c c' hc hc' _
  rw [manifest_of_mem_attribution hc, manifest_of_mem_attribution hc']

/-- Two manifests of one trade, each of a database of its own, are both finalized: the trade is attributed twice. -/
theorem disjointManifests_finalized :
    let first := tradeExit "adj-1" "exit of paper" ⟨1, 0⟩ [⟨"paper", "paper-1", ⟨1, 0⟩⟩]
    let second := tradeExit "adj-2" "exit of testnet" ⟨1, 0⟩ [⟨"testnet", "testnet-1", ⟨1, 0⟩⟩]
    let ops := first.attribution ++ second.attribution
    NoCollision tradeHash (· ∈ ops) ∧ first.adjudicationId ≠ second.adjudicationId ∧
      ¬ SingleManifest (quarantined.run tradeHash ops) := by
  intro first second ops
  have hapart : ∀ c ∈ ops, ∀ c' ∈ ops, tradeHash.manifestHash c.op.manifest.payload =
      tradeHash.manifestHash c'.op.manifest.payload → c.op.manifest.payload = c'.op.manifest.payload := by decide +kernel
  refine ⟨fun c c' hc hc' => hapart c hc c' hc', by decide, fun hsingle => ?_⟩
  have hrow : ∀ d : String, (d = "paper" ∨ d = "testnet") →
      ∃ f ∈ (quarantined.run tradeHash ops d).db.finalizations, f.exchangeOrderId = "1001" ∧ f.exchangeTradeId = "7" ∧
        f.manifestHash = if d = "paper" then "manifest:7:exit of paper" else "manifest:7:exit of testnet" := by
    rintro d (rfl | rfl)
    · decide +kernel
    · decide +kernel
  obtain ⟨f, hf, horder, htrade, hhash⟩ := hrow "paper" (.inl rfl)
  obtain ⟨f', hf', horder', htrade', hhash'⟩ := hrow "testnet" (.inr rfl)
  have hsame := hsingle "paper" "testnet" f f' hf hf' (horder.trans horder'.symm) (htrade.trans htrade'.symm)
  rw [hhash, hhash'] at hsame
  exact absurd hsame (by decide)

end TradingPlatform
