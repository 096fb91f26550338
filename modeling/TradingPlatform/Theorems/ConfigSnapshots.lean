import TradingPlatform.Engine.ConfigSnapshots

/-!
# What becomes of a staged configuration

Whatever the order of the statements, the active and the pending configuration of a run are two stored snapshots and no snapshot
is changed. Every activation puts in force the snapshot that is pending, made for the configuration it replaces, exactly when no
activation finds the slot changed since it read it.
-/

namespace TradingPlatform

/-! ## Statements -/

/-- The columns of a configuration name one of the snapshots, or none. -/
def Points (snapshots : List TradingConfigSnapshot) (id hash : Option String) : Prop :=
  (id = none ∧ hash = none) ∨ ∃ r ∈ snapshots, id = some r.configSnapshotId ∧ hash = some r.configHash

/-- A store that agrees with itself. -/
structure ConfigStore.Coherent (s : ConfigStore) : Prop where
  ids : (s.snapshots.map TradingConfigSnapshot.configSnapshotId).Nodup
  hashes : (s.snapshots.map TradingConfigSnapshot.configHash).Nodup
  active : Points s.snapshots s.run.activeConfigSnapshotId s.run.activeConfigHash
  pending : Points s.snapshots s.run.pendingConfigSnapshotId s.run.pendingConfigHash
  apart : ∀ id ∈ s.run.pendingConfigSnapshotId, s.run.activeConfigSnapshotId ≠ some id

/-- An activation puts in force what is pending, and that was made for the configuration it replaces. -/
def ConfigEvent.Follows : ConfigEvent → Prop
  | .activated snapshotId taken replaced _ => taken = some (snapshotId, replaced)
  | _ => True

/-- An activation finds in the slot what it read there. -/
def ConfigEvent.AsRead : ConfigEvent → Prop
  | .activated _ _ _ asRead => asRead = true
  | _ => True

/-- The snapshot that an event puts in the slot. -/
@[grind =] def ConfigEvent.stagedId : ConfigEvent → Option String
  | .staged snapshotId _ => some snapshotId
  | _ => none

/-- The snapshot that an event puts in force or clears. -/
@[grind =] def ConfigEvent.retiredId : ConfigEvent → Option String
  | .activated snapshotId _ _ _ => some snapshotId
  | .cleared taken => taken.map Prod.fst
  | _ => none

/-- What was staged was put in force or cleared, in the order it was staged, but for what is pending. -/
def ConfigStore.Accounted (s : ConfigStore) : Prop :=
  s.events.filterMap ConfigEvent.stagedId = s.events.filterMap ConfigEvent.retiredId ++ s.run.pendingConfigSnapshotId.toList

section

variable {s : ConfigStore} {snapshots snapshots' : List TradingConfigSnapshot} {row : TradingConfigSnapshot}
  {id hash : Option String} {elsewhere : Bool}

theorem Points.mono (h : Points snapshots id hash) (hs : snapshots <+: snapshots') : Points snapshots' id hash := by
  rcases h with hnone | ⟨r, hr, hid, hhash⟩
  · exact .inl hnone
  · exact .inr ⟨r, hs.subset hr, hid, hhash⟩

theorem Points.of_mem (h : row ∈ snapshots) : Points snapshots (some row.configSnapshotId) (some row.configHash) :=
  .inr ⟨row, h, rfl, rfl⟩

/-- With distinct ids the id tells the hash. -/
theorem Points.hash_eq (hids : (snapshots.map TradingConfigSnapshot.configSnapshotId).Nodup) (h : Points snapshots id hash)
    (hrow : row ∈ snapshots) (hid : id = some row.configSnapshotId) : hash = some row.configHash := by
  rcases h with ⟨hnone, -⟩ | ⟨r, hr, hr', hhash⟩
  · rw [hnone] at hid
    cases hid
  · rw [hr', Option.some.injEq] at hid
    rw [hhash, List.inj_on_of_nodup_map hids hr hrow hid]

/-- With distinct hashes the hash tells the id. -/
theorem Points.id_eq (hhashes : (snapshots.map TradingConfigSnapshot.configHash).Nodup) (h : Points snapshots id hash)
    (hrow : row ∈ snapshots) (hhash : hash = some row.configHash) : id = some row.configSnapshotId := by
  rcases h with ⟨-, hnone⟩ | ⟨r, hr, hid, hr'⟩
  · rw [hnone] at hhash
    cases hhash
  · rw [hr', Option.some.injEq] at hhash
    rw [hid, List.inj_on_of_nodup_map hhashes hr hrow hhash]

theorem Points.ne_of_free (h : Points s.snapshots id hash) (hfree : s.free row elsewhere = true) :
    id ≠ some row.configSnapshotId := by
  rcases h with ⟨hnone, -⟩ | ⟨r, hr, hid, -⟩
  · rw [hnone]
    intro hne
    cases hne
  · have hall := List.all_eq_true.mp (Bool.and_eq_true_iff.mp hfree).2 r hr
    rw [hid]
    exact fun heq => (of_decide_eq_true hall).1 (Option.some.inj heq)

end

namespace ConfigSnapshotsAux

variable {s s' : ConfigStore} {snapshots snapshots' : List TradingConfigSnapshot} {row : TradingConfigSnapshot}
  {id hash base : Option String} {loaded : PaperRunConfig} {elsewhere : Bool}

theorem claimable_iff : s.run.claimable base = true ↔ s.run.activeConfigHash = base ∧ s.run.pendingConfigSnapshotId = none := by
  simp [PaperRunConfig.claimable]

/-! ## What a statement writes -/

theorem Coherent.append (h : s.Coherent) (hfree : s.free row elsewhere = true) :
    ({ s with snapshots := s.snapshots ++ [row] } : ConfigStore).Coherent := by
  have hall := List.all_eq_true.mp (Bool.and_eq_true_iff.mp hfree).2
  have hprefix : s.snapshots <+: s.snapshots ++ [row] := List.prefix_append _ _
  constructor
  · rw [List.map_append, List.nodup_append]
    refine ⟨h.ids, List.nodup_singleton _, fun x hx y hy heq => ?_⟩
    obtain ⟨r, hr, rfl⟩ := List.mem_map.mp hx
    rw [List.map_singleton, List.mem_singleton] at hy
    exact (of_decide_eq_true (hall r hr)).1 (heq.trans hy)
  · rw [List.map_append, List.nodup_append]
    refine ⟨h.hashes, List.nodup_singleton _, fun x hx y hy heq => ?_⟩
    obtain ⟨r, hr, rfl⟩ := List.mem_map.mp hx
    rw [List.map_singleton, List.mem_singleton] at hy
    exact (of_decide_eq_true (hall r hr)).2 (heq.trans hy)
  · exact h.active.mono hprefix
  · exact h.pending.mono hprefix
  · exact h.apart

theorem Coherent.stage (h : s.Coherent) (hrow : row ∈ s.snapshots) (hne : s.run.activeConfigSnapshotId ≠ some row.configSnapshotId)
    (base : Option String) : (s.stage row base).Coherent := by
  constructor
  · exact h.ids
  · exact h.hashes
  · exact h.active
  · exact Points.of_mem hrow
  · intro id hid
    cases hid
    exact hne

/-- The first configuration of a run, whatever has become of the run since it was read. -/
theorem Coherent.bootstrap (h : s.Coherent) (hfree : s.free row elsewhere = true) :
    ({ s with
        run := { s.run with activeConfigSnapshotId := some row.configSnapshotId, activeConfigHash := some row.configHash }
        snapshots := s.snapshots ++ [row] } : ConfigStore).Coherent := by
  have happend := Coherent.append h hfree
  constructor
  · exact happend.ids
  · exact happend.hashes
  · exact Points.of_mem (List.mem_append_right _ (List.mem_singleton_self row))
  · exact happend.pending
  · intro id hid heq
    cases heq
    exact h.pending.ne_of_free hfree hid

/-- What `activate_pending` leaves in the run. -/
theorem activate_run (h : s.Coherent) (hrow : row ∈ s.snapshots)
    (hactive : Points s.snapshots loaded.activeConfigSnapshotId loaded.activeConfigHash)
    (hpending : loaded.pendingConfigSnapshotId = some row.configSnapshotId) (hhash : loaded.pendingConfigHash = some row.configHash)
    (hapart : loaded.activeConfigSnapshotId ≠ some row.configSnapshotId) :
    (s.activate loaded row).run = { s.run with
      activeConfigSnapshotId := some row.configSnapshotId
      activeConfigHash := some row.configHash
      pendingConfigSnapshotId := none
      pendingConfigHash := none } := by
  have hne : loaded.activeConfigHash ≠ some row.configHash := fun heq => hapart (hactive.id_eq h.hashes hrow heq)
  unfold ConfigStore.activate
  dsimp only
  rw [Table.changedColumn_of_ne (Ne.symm hapart), Table.changedColumn_of_ne (Ne.symm hne),
    Table.changedColumn_of_ne (by rw [hpending]; simp), Table.changedColumn_of_ne (by rw [hhash]; simp)]

theorem clear_run (hpending : Points s.snapshots loaded.pendingConfigSnapshotId loaded.pendingConfigHash)
    (hsome : loaded.pendingConfigSnapshotId.isNone = false) :
    (s.clear loaded).run = { s.run with pendingConfigSnapshotId := none, pendingConfigHash := none } := by
  rcases hpending with ⟨hnone, -⟩ | ⟨r, -, hid, hhash⟩
  · rw [hnone] at hsome
    cases hsome
  · unfold ConfigStore.clear
    rw [hsome, if_neg (by simp)]
    dsimp only
    rw [Table.changedColumn_of_ne (by rw [hid]; simp), Table.changedColumn_of_ne (by rw [hhash]; simp)]

/-! ## Calls -/

/-- What a call knows of the store. -/
def Placed (s : ConfigStore) : ConfigCall → Prop
  | .lookup _ base loaded =>
    Points s.snapshots loaded.activeConfigSnapshotId loaded.activeConfigHash ∧ loaded.activeConfigHash = base
  | .claim existing base => existing ∈ s.snapshots ∧ base ≠ some existing.configHash
  | .activating loaded pending =>
    pending ∈ s.snapshots ∧ Points s.snapshots loaded.activeConfigSnapshotId loaded.activeConfigHash ∧
      loaded.pendingConfigSnapshotId = some pending.configSnapshotId ∧ loaded.pendingConfigHash = some pending.configHash ∧
        loaded.activeConfigSnapshotId ≠ some pending.configSnapshotId
  | .clearing loaded => Points s.snapshots loaded.pendingConfigSnapshotId loaded.pendingConfigHash
  | _ => True

theorem placed_mono (hs : s.snapshots <+: s'.snapshots) {call : ConfigCall} (h : Placed s call) : Placed s' call := by
  cases call with
  | lookup snapshot base loaded => exact ⟨h.1.mono hs, h.2⟩
  | claim existing base => exact ⟨hs.subset h.1, h.2⟩
  | activating loaded pending => exact ⟨hs.subset h.1, h.2.1.mono hs, h.2.2⟩
  | clearing loaded => exact Points.mono h hs
  | _ => exact trivial

theorem insert_cases (s : ConfigStore) (row : TradingConfigSnapshot) (elsewhere : Bool) (base : Option String)
    (loaded : PaperRunConfig) : s.insert row elsewhere base loaded = s ∨ s.free row elsewhere = true ∧
      (loaded.activeConfigSnapshotId = none ∧ s.insert row elsewhere base loaded = { s with
          run := { s.run with activeConfigSnapshotId := some row.configSnapshotId, activeConfigHash := some row.configHash }
          snapshots := s.snapshots ++ [row] } ∨
        loaded.activeConfigSnapshotId ≠ none ∧ s.run.claimable base = true ∧
          s.insert row elsewhere base loaded = ({ s with snapshots := s.snapshots ++ [row] } : ConfigStore).stage row base) := by
  unfold ConfigStore.insert
  by_cases hfree : s.free row elsewhere = true
  · rw [if_pos hfree]
    by_cases hnone : loaded.activeConfigSnapshotId.isNone = true
    · rw [if_pos hnone]
      exact .inr ⟨hfree, .inl ⟨Option.isNone_iff_eq_none.mp hnone, rfl⟩⟩
    · rw [if_neg hnone]
      by_cases hclaim : s.run.claimable base = true
      · rw [if_pos hclaim]
        exact .inr ⟨hfree, .inr ⟨fun h => hnone (by rw [h]; rfl), hclaim, rfl⟩⟩
      · rw [if_neg hclaim]
        exact .inl rfl
  · rw [if_neg hfree]
    exact .inl rfl

theorem stageProfile_cases (s : ConfigStore) (row : TradingConfigSnapshot) (elsewhere : Bool) (profile : String)
    (base : Option String) : s.stageExecutionProfileSnapshot row elsewhere profile base = s ∨
      s.free row elsewhere = true ∧ s.run.claimable base = true ∧ s.stageExecutionProfileSnapshot row elsewhere profile base =
        ({ s with run := { s.run with executionProfile := profile }, snapshots := s.snapshots ++ [row] } : ConfigStore).stage
          row base := by
  unfold ConfigStore.stageExecutionProfileSnapshot
  by_cases hboth : (s.run.claimable base && s.free row elsewhere) = true
  · rw [if_pos hboth]
    obtain ⟨hclaim, hfree⟩ := Bool.and_eq_true_iff.mp hboth
    exact .inr ⟨hfree, hclaim, rfl⟩
  · rw [if_neg hboth]
    exact .inl rfl

/-- The profile of the run is no part of its coherence. -/
theorem Coherent.profile (h : s.Coherent) (profile : String) :
    ({ s with run := { s.run with executionProfile := profile } } : ConfigStore).Coherent :=
  ⟨h.ids, h.hashes, h.active, h.pending, h.apart⟩

/-- Snapshots are only added. -/
theorem next_snapshots (input : ConfigInput) (call : ConfigCall) (s : ConfigStore) :
    s.snapshots <+: (call.next input s).2.snapshots := by
  cases call with
  | create snapshot base => exact List.prefix_refl _
  | lookup snapshot base loaded =>
    unfold ConfigCall.next
    dsimp only
    split <;> exact List.prefix_refl _
  | claim existing base =>
    unfold ConfigCall.next
    dsimp only
    split <;> exact List.prefix_refl _
  | insert snapshot base loaded =>
    unfold ConfigCall.next
    dsimp only
    rcases insert_cases s (snapshot.row input.uuid) input.elsewhere base loaded with h | ⟨-, ⟨-, h⟩ | ⟨-, -, h⟩⟩ <;> rewrite [h]
    · exact List.prefix_refl _
    · exact List.prefix_append _ _
    · exact List.prefix_append _ _
  | stage snapshot profile base =>
    unfold ConfigCall.next
    dsimp only
    rcases stageProfile_cases s (snapshot.row input.uuid) input.elsewhere profile base with h | ⟨-, -, h⟩ <;> rewrite [h]
    · exact List.prefix_refl _
    · exact List.prefix_append _ _
  | activatePending cycleId =>
    unfold ConfigCall.next
    dsimp only
    split <;> exact List.prefix_refl _
  | activating loaded pending => exact List.prefix_refl _
  | clearPending => exact List.prefix_refl _
  | clearing loaded =>
    unfold ConfigCall.next ConfigStore.clear
    dsimp only
    split <;> exact List.prefix_refl _

theorem next_coherent (input : ConfigInput) {call : ConfigCall} (h : s.Coherent) (hplaced : Placed s call) :
    (call.next input s).2.Coherent := by
  cases call with
  | create snapshot base => exact h
  | lookup snapshot base loaded =>
    unfold ConfigCall.next
    dsimp only
    split <;> exact h
  | claim existing base =>
    unfold ConfigCall.next
    dsimp only
    split
    · rename_i hclaim
      refine Coherent.stage h hplaced.1 (fun heq => hplaced.2 ?_) base
      rw [← (claimable_iff.mp hclaim).1]
      exact h.active.hash_eq h.ids hplaced.1 heq
    · exact h
  | insert snapshot base loaded =>
    unfold ConfigCall.next
    dsimp only
    rcases insert_cases s (snapshot.row input.uuid) input.elsewhere base loaded with heq | ⟨hfree, ⟨-, heq⟩ | ⟨-, -, heq⟩⟩ <;> rw [heq]
    · exact h
    · exact Coherent.bootstrap h hfree
    · exact Coherent.stage (Coherent.append h hfree) List.mem_concat_self
        (h.active.ne_of_free hfree) base
  | stage snapshot profile base =>
    unfold ConfigCall.next
    dsimp only
    rcases stageProfile_cases s (snapshot.row input.uuid) input.elsewhere profile base with heq | ⟨hfree, -, heq⟩ <;> rw [heq]
    · exact h
    · exact Coherent.stage (Coherent.profile (Coherent.append h hfree) profile)
        List.mem_concat_self (h.active.ne_of_free hfree) base
  | activatePending cycleId =>
    unfold ConfigCall.next
    dsimp only
    split <;> exact h
  | activating loaded pending =>
    obtain ⟨hrow, hactive, hpending, hhash, hapart⟩ := hplaced
    have hrun := activate_run h hrow hactive hpending hhash hapart
    constructor
    · exact h.ids
    · exact h.hashes
    · change Points s.snapshots (s.activate loaded pending).run.activeConfigSnapshotId (s.activate loaded pending).run.activeConfigHash
      rw [hrun]
      exact Points.of_mem hrow
    · change Points s.snapshots (s.activate loaded pending).run.pendingConfigSnapshotId
        (s.activate loaded pending).run.pendingConfigHash
      rw [hrun]
      exact .inl ⟨rfl, rfl⟩
    · intro id hid
      change id ∈ (s.activate loaded pending).run.pendingConfigSnapshotId at hid
      rw [hrun] at hid
      cases hid
  | clearPending => exact h
  | clearing loaded =>
    cases hnone : loaded.pendingConfigSnapshotId.isNone with
    | true =>
      have hsame : (ConfigCall.clearing loaded).next input s = (none, s) := by simp [ConfigCall.next, ConfigStore.clear, hnone]
      rw [hsame]
      exact h
    | false =>
      have hrun := clear_run hplaced hnone
      have hsnapshots : (s.clear loaded).snapshots = s.snapshots := by simp [ConfigStore.clear, hnone]
      change (s.clear loaded).Coherent
      constructor
      · rw [hsnapshots]
        exact h.ids
      · rw [hsnapshots]
        exact h.hashes
      · rw [hsnapshots, hrun]
        exact h.active
      · rw [hrun]
        exact .inl ⟨rfl, rfl⟩
      · intro id hid
        rw [hrun] at hid
        cases hid

theorem next_placed (input : ConfigInput) {call call' : ConfigCall} (h : s.Coherent) (hplaced : Placed s call)
    (hnext : (call.next input s).1 = some call') : Placed (call.next input s).2 call' := by
  cases call with
  | create snapshot base =>
    unfold ConfigCall.next at hnext
    dsimp only at hnext
    split at hnext
    · rename_i hclaim
      cases hnext
      exact ⟨h.active, (claimable_iff.mp hclaim).1⟩
    · cases hnext
  | lookup snapshot base loaded =>
    unfold ConfigCall.next at hnext ⊢
    dsimp only at hnext ⊢
    cases hfind : s.snapshots.find? fun r => decide (r.configHash = snapshot.configHash) with
    | none =>
      rw [hfind] at hnext
      cases hnext
      exact trivial
    | some existing =>
      rw [hfind] at hnext
      dsimp only at hnext ⊢
      split at hnext
      · cases hnext
      · rename_i hne
        cases hnext
        refine ⟨List.mem_of_find?_eq_some hfind, fun heq => hne ?_⟩
        exact hplaced.1.id_eq h.hashes (List.mem_of_find?_eq_some hfind) (hplaced.2.trans heq)
  | claim existing base => cases hnext
  | insert snapshot base loaded => cases hnext
  | stage snapshot profile base => cases hnext
  | activatePending cycleId =>
    unfold ConfigCall.next at hnext ⊢
    dsimp only at hnext ⊢
    cases hfind : s.run.pendingConfigSnapshotId.bind fun id => s.snapshots.find? fun r => decide (r.configSnapshotId = id) with
    | none =>
      rw [hfind] at hnext
      cases hnext
    | some pending =>
      rw [hfind] at hnext
      dsimp only at hnext ⊢
      split at hnext
      · cases hnext
        obtain ⟨id, hid, hfound⟩ := Option.bind_eq_some_iff.mp hfind
        have hrow := List.mem_of_find?_eq_some hfound
        have hkey : pending.configSnapshotId = id := by simpa using List.find?_some hfound
        have hpending : s.run.pendingConfigSnapshotId = some pending.configSnapshotId := by rw [hid, hkey]
        exact ⟨hrow, h.active, hpending, h.pending.hash_eq h.ids hrow hpending, h.apart _ hpending⟩
      · cases hnext
  | activating loaded pending => cases hnext
  | clearPending =>
    cases hnext
    exact h.pending
  | clearing loaded => cases hnext

theorem keeps_next : Sessions.Keeps ConfigCall.next ConfigCall.Starts ConfigStore.Coherent (fun call s => Placed s call) where
  start s call _ hstarts := by
    cases call with
    | create snapshot base => exact trivial
    | stage snapshot profile base => exact trivial
    | activatePending cycleId => exact trivial
    | clearPending => exact trivial
    | _ => exact absurd hstarts id
  stored input call s h hplaced := next_coherent input h hplaced
  call input call s call' h hplaced hnext := next_placed input h hplaced hnext
  other input call s u _ _ hu := placed_mono (next_snapshots input call s) hu

end ConfigSnapshotsAux

open ConfigSnapshotsAux

/-- In any order of the statements the columns of the run name stored snapshots, two different ones, and the snapshots only
grow. -/
theorem config_coherent {s : ConfigStore} (h : s.Coherent) {ops : List (Sessions.Op ConfigCall ConfigInput)}
    (hops : Sessions.Begins ConfigCall.Starts ops) :
    (s.runConfig ops).Coherent ∧ s.snapshots <+: (s.runConfig ops).snapshots := by
  have hstart : Sessions.Holds ConfigStore.Coherent (fun call s => Placed s call) { stored := s } :=
    ⟨h, fun call t ht => by cases ht⟩
  refine ⟨(keeps_next.run hstart hops).1, ?_⟩
  exact keeps_next.run_rel (R := fun s s' => s.snapshots <+: s'.snapshots) (fun s => List.prefix_refl _)
    (fun _ _ _ h h' => h.trans h') (fun input call s _ _ => next_snapshots input call s) hstart hops

/-! ## Activations -/

namespace ConfigSnapshotsAux

variable {s : ConfigStore} {row : TradingConfigSnapshot} {base : Option String} {loaded : PaperRunConfig}

/-- An activation found what it read exactly if its snapshot was in the slot. -/
def Faithful : ConfigEvent → Prop
  | .activated snapshotId taken _ asRead => asRead = true ↔ taken.map Prod.fst = some snapshotId
  | _ => True

/-- Once every activation found what it read, the events are those of one change after the other. -/
structure Chained (s : ConfigStore) : Prop where
  active : s.run.activeConfigSnapshotId ≠ none
  faithful : ∀ e ∈ s.events, Faithful e
  chain : (∀ e ∈ s.events, e.AsRead) →
    (s.run.pendingConfigSnapshotId ≠ none → s.pendingBase = s.run.activeConfigHash) ∧ s.Accounted ∧ ∀ e ∈ s.events, e.Follows

/-- A call that has read the run has read an active configuration. -/
def Live : ConfigCall → Prop
  | .lookup _ _ loaded => loaded.activeConfigSnapshotId ≠ none
  | .insert _ _ loaded => loaded.activeConfigSnapshotId ≠ none
  | _ => True

/-- A store with other snapshots and another profile. -/
theorem Chained.other (h : Chained s) (snapshots : List TradingConfigSnapshot) (profile : String) :
    Chained { s with run := { s.run with executionProfile := profile }, snapshots } := ⟨h.active, h.faithful, h.chain⟩

theorem forall_event {P : ConfigEvent → Prop} {events : List ConfigEvent} {event : ConfigEvent} (h : ∀ e ∈ events, P e)
    (hevent : P event) : ∀ e ∈ events ++ [event], P e := by
  intro e he
  rcases List.mem_append.mp he with he | he
  · exact h e he
  · rw [List.mem_singleton.mp he]
    exact hevent

theorem Chained.stage (h : Chained s) (hclaim : s.run.claimable base = true) : Chained (s.stage row base) := by
  obtain ⟨hbase, hnone⟩ := claimable_iff.mp hclaim
  refine ⟨h.active, forall_event h.faithful trivial, fun hread => ?_⟩
  obtain ⟨-, haccounted, hfollows⟩ := h.chain fun e he => hread e (List.mem_append_left _ he)
  refine ⟨fun _ => hbase.symm, ?_, forall_event hfollows trivial⟩
  unfold ConfigStore.Accounted at haccounted
  rw [hnone, Option.toList_none, List.append_nil] at haccounted
  simp [ConfigStore.Accounted, ConfigStore.stage, haccounted, ConfigEvent.stagedId, ConfigEvent.retiredId]

/-- An activation that finds what it read retires what is pending. -/
theorem Chained.activate (h : Chained s) (hs : s.Coherent) (hrow : row ∈ s.snapshots)
    (hactive : Points s.snapshots loaded.activeConfigSnapshotId loaded.activeConfigHash)
    (hpending : loaded.pendingConfigSnapshotId = some row.configSnapshotId) (hhash : loaded.pendingConfigHash = some row.configHash)
    (hapart : loaded.activeConfigSnapshotId ≠ some row.configSnapshotId) : Chained (s.activate loaded row) := by
  have hrun := activate_run hs hrow hactive hpending hhash hapart
  have hevents : (s.activate loaded row).events = s.events ++ [.activated row.configSnapshotId s.taken s.run.activeConfigHash
      (decide (s.run.pendingConfigSnapshotId = loaded.pendingConfigSnapshotId))] := rfl
  have hfaithful : Faithful (.activated row.configSnapshotId s.taken s.run.activeConfigHash
      (decide (s.run.pendingConfigSnapshotId = loaded.pendingConfigSnapshotId))) := by
    unfold Faithful ConfigStore.taken
    cases hslot : s.run.pendingConfigSnapshotId <;> simp [hpending]
  refine ⟨by rw [hrun]; simp, by rw [hevents]; exact forall_event h.faithful hfaithful, fun hread => ?_⟩
  rw [hevents] at hread ⊢
  obtain ⟨hbase, haccounted, hfollows⟩ := h.chain fun e he => hread e (List.mem_append_left _ he)
  have hsame : s.run.pendingConfigSnapshotId = some row.configSnapshotId := by
    have hlast : decide (s.run.pendingConfigSnapshotId = loaded.pendingConfigSnapshotId) = true :=
      hread _ List.mem_concat_self
    exact (of_decide_eq_true hlast).trans hpending
  have htaken : s.taken = some (row.configSnapshotId, s.run.activeConfigHash) := by
    unfold ConfigStore.taken
    rw [hsame, Option.map_some, hbase (by rw [hsame]; simp)]
  refine ⟨fun hne => absurd (by rw [hrun]) hne, ?_, forall_event hfollows htaken⟩
  unfold ConfigStore.Accounted at haccounted ⊢
  rw [hsame] at haccounted
  rw [hevents, hrun, List.filterMap_append, List.filterMap_append, haccounted]
  simp [ConfigEvent.stagedId, ConfigEvent.retiredId]

theorem Chained.clear (h : Chained s) (hloaded : Points s.snapshots loaded.pendingConfigSnapshotId loaded.pendingConfigHash) :
    Chained (s.clear loaded) := by
  cases hnone : loaded.pendingConfigSnapshotId.isNone with
  | true =>
    have hsame : s.clear loaded = s := by simp [ConfigStore.clear, hnone]
    rw [hsame]
    exact h
  | false =>
    have hrun := clear_run (s := s) hloaded hnone
    have hevents : (s.clear loaded).events = s.events ++ [.cleared s.taken] := by simp [ConfigStore.clear, hnone]
    refine ⟨by rw [hrun]; exact h.active, by rw [hevents]; exact forall_event h.faithful trivial, fun hread => ?_⟩
    rw [hevents] at hread ⊢
    obtain ⟨-, haccounted, hfollows⟩ := h.chain fun e he => hread e (List.mem_append_left _ he)
    refine ⟨fun hne => absurd (by rw [hrun]) hne, ?_, forall_event hfollows trivial⟩
    unfold ConfigStore.Accounted at haccounted ⊢
    rw [hevents, hrun, List.filterMap_append, List.filterMap_append, haccounted]
    cases hpending : s.run.pendingConfigSnapshotId <;>
      simp [List.filterMap_cons, ConfigEvent.stagedId, ConfigEvent.retiredId, ConfigStore.taken, hpending]

theorem next_chained (input : ConfigInput) {call : ConfigCall} (hs : s.Coherent) (hplaced : Placed s call) (h : Chained s)
    (hlive : Live call) : Chained (call.next input s).2 := by
  cases call with
  | create snapshot base => exact h
  | lookup snapshot base loaded =>
    unfold ConfigCall.next
    dsimp only
    split <;> exact h
  | claim existing base =>
    unfold ConfigCall.next
    dsimp only
    split
    · rename_i hclaim
      exact Chained.stage h hclaim
    · exact h
  | insert snapshot base loaded =>
    unfold ConfigCall.next
    dsimp only
    rcases insert_cases s (snapshot.row input.uuid) input.elsewhere base loaded with heq | ⟨-, ⟨hnone, -⟩ | ⟨-, hclaim, heq⟩⟩
    · rw [heq]
      exact h
    · exact absurd hnone hlive
    · rw [heq]
      exact Chained.stage (Chained.other h _ s.run.executionProfile) hclaim
  | stage snapshot profile base =>
    unfold ConfigCall.next
    dsimp only
    rcases stageProfile_cases s (snapshot.row input.uuid) input.elsewhere profile base with heq | ⟨-, hclaim, heq⟩ <;> rw [heq]
    · exact h
    · exact Chained.stage (Chained.other h _ profile) hclaim
  | activatePending cycleId =>
    unfold ConfigCall.next
    dsimp only
    split <;> exact h
  | activating loaded pending =>
    obtain ⟨hrow, hactive, hpending, hhash, hapart⟩ := hplaced
    exact Chained.activate h hs hrow hactive hpending hhash hapart
  | clearPending => exact h
  | clearing loaded => exact Chained.clear h hplaced

theorem next_live (input : ConfigInput) {call call' : ConfigCall} (h : Chained s) (hlive : Live call)
    (hnext : (call.next input s).1 = some call') : Live call' := by
  cases call with
  | create snapshot base =>
    unfold ConfigCall.next at hnext
    dsimp only at hnext
    split at hnext
    · cases hnext
      exact h.active
    · cases hnext
  | lookup snapshot base loaded =>
    unfold ConfigCall.next at hnext
    dsimp only at hnext
    split at hnext
    · dsimp only at hnext
      split at hnext <;> cases hnext
      exact trivial
    · cases hnext
      exact hlive
  | activatePending cycleId =>
    unfold ConfigCall.next at hnext
    dsimp only at hnext
    split at hnext
    · cases hnext
    · dsimp only at hnext
      split at hnext <;> cases hnext
      exact trivial
  | clearPending =>
    cases hnext
    exact trivial
  | _ => cases hnext

theorem keeps_chained : Sessions.Keeps ConfigCall.next ConfigCall.Starts (fun s => s.Coherent ∧ Chained s)
    (fun call s => Placed s call ∧ Live call) := by
  refine keeps_next.and ?_ ?_ ?_ ?_
  · intro s call _ _ hstarts
    cases call with
    | create snapshot base => exact trivial
    | stage snapshot profile base => exact trivial
    | activatePending cycleId => exact trivial
    | clearPending => exact trivial
    | _ => exact absurd hstarts id
  · exact fun input call s hs hplaced h hlive => next_chained input hs hplaced h hlive
  · exact fun input call s call' _ _ h hlive hnext => next_live input h hlive hnext
  · exact fun _ _ _ _ _ _ _ _ hu => hu

end ConfigSnapshotsAux

/-- A run of a paper run with an active configuration and an empty slot: every activation puts in force what is pending, made for
the configuration it replaces, exactly when each finds what it read. Then nothing staged is lost. -/
theorem config_follows_iff {s : ConfigStore} (h : s.Coherent) (hactive : s.run.activeConfigSnapshotId ≠ none)
    (hslot : s.run.pendingConfigSnapshotId = none) (hevents : s.events = []) {ops : List (Sessions.Op ConfigCall ConfigInput)}
    (hops : Sessions.Begins ConfigCall.Starts ops) :
    ((∀ e ∈ (s.runConfig ops).events, e.Follows) ↔ ∀ e ∈ (s.runConfig ops).events, e.AsRead) ∧
      ((∀ e ∈ (s.runConfig ops).events, e.AsRead) → (s.runConfig ops).Accounted) := by
  have hchained : Chained s := by
    refine ⟨hactive, by rw [hevents]; simp, fun _ => ⟨fun hne => absurd hslot hne, ?_, by rw [hevents]; simp⟩⟩
    simp [ConfigStore.Accounted, hslot, hevents]
  have hrun := (keeps_chained.run (w := { stored := s }) ⟨⟨h, hchained⟩, fun call t ht => by cases ht⟩ hops).1.2
  refine ⟨⟨fun hfollows e he => ?_, fun hread => (hrun.chain hread).2.2⟩, fun hread => (hrun.chain hread).2.1⟩
  have hfaithful := hrun.faithful e he
  have hfollow := hfollows e he
  cases e with
  | activated snapshotId taken replaced asRead =>
    refine hfaithful.mpr ?_
    rw [show taken = some (snapshotId, replaced) from hfollow]
    rfl
  | _ => exact trivial

namespace ConfigSnapshotsAux

def sampleConfigSnapshot (id hash : String) : TradingConfigSnapshot where
  configSnapshotId := id
  configPayload := hash
  configHash := hash
  createdBy := "operator"
  effectiveCycleId := "NEXT_CYCLE"
  previousSnapshotId := none

/-- A run with an active configuration. -/
def sampleStore : ConfigStore where
  run := { executionProfile := "profile", activeConfigSnapshotId := some "snapshot-1", activeConfigHash := some "hash-1" }
  snapshots := [sampleConfigSnapshot "snapshot-1" "hash-1"]

def sampleChange (id hash : String) : ConfigSnapshot where
  configSnapshotId := some id
  config := hash
  configHash := hash
  createdBy := "operator"
  effectiveCycleId := "NEXT_CYCLE"
  previousSnapshotId := none

/-- Two changes made for the active configuration at once, and the activation of the next cycle. -/
def sampleChanges : List (Sessions.Op ConfigCall ConfigInput) :=
  [.start 0 (.create (sampleChange "snapshot-2" "hash-2") (some "hash-1")), .start 1 (.create (sampleChange "snapshot-3" "hash-3") (some "hash-1")),
    .advance 0 ⟨"uuid", false⟩, .advance 1 ⟨"uuid", false⟩, .advance 0 ⟨"uuid", false⟩, .advance 1 ⟨"uuid", false⟩,
    .advance 1 ⟨"uuid", false⟩, .advance 0 ⟨"uuid", false⟩, .start 2 (.activatePending "cycle-1"), .advance 2 ⟨"uuid", false⟩,
    .advance 2 ⟨"uuid", false⟩]

/-- Two activations of one snapshot, with a change and its activation between the read and the write of the first. -/
def sampleRace : List (Sessions.Op ConfigCall ConfigInput) :=
  [.start 0 (.stage (sampleChange "snapshot-2" "hash-2") "sizing" (some "hash-1")), .advance 0 ⟨"uuid", false⟩,
    .start 1 (.activatePending "cycle-1"), .advance 1 ⟨"uuid", false⟩, .start 2 (.activatePending "cycle-1"), .advance 2 ⟨"uuid", false⟩,
    .advance 2 ⟨"uuid", false⟩, .start 3 (.stage (sampleChange "snapshot-3" "hash-3") "sizing" (some "hash-2")),
    .advance 3 ⟨"uuid", false⟩, .advance 1 ⟨"uuid", false⟩]

theorem sampleStore_coherent : sampleStore.Coherent := by
  constructor
  · decide
  · decide
  · exact .inr ⟨sampleConfigSnapshot "snapshot-1" "hash-1", List.mem_singleton_self _, rfl, rfl⟩
  · exact .inl ⟨rfl, rfl⟩
  · intro id hid
    cases hid

theorem sampleChanges_begins : Sessions.Begins ConfigCall.Starts sampleChanges := by simp [sampleChanges, ConfigCall.Starts]

theorem sampleRace_begins : Sessions.Begins ConfigCall.Starts sampleRace := by simp [sampleRace, ConfigCall.Starts]

end ConfigSnapshotsAux

/-- Of two changes made for one configuration at once, the snapshots of one are stored. -/
theorem config_coherent_twoChanges : (sampleStore.runConfig sampleChanges).run.activeConfigHash = some "hash-3" ∧
    (sampleStore.runConfig sampleChanges).Coherent :=
  ⟨by decide +kernel, (config_coherent sampleStore_coherent sampleChanges_begins).1⟩

/-- An activation that was overtaken puts an old configuration in force again, and the change made since is lost. -/
theorem config_follows_race : ¬∀ e ∈ (sampleStore.runConfig sampleRace).events, e.Follows := by
  intro hfollows
  have hread := (config_follows_iff sampleStore_coherent (by decide) rfl rfl sampleRace_begins).1.mp hfollows
  have hraced : ∃ e ∈ (sampleStore.runConfig sampleRace).events,
      e = .activated "snapshot-2" (some ("snapshot-3", some "hash-2")) (some "hash-2") false := by decide +kernel
  obtain ⟨e, he, heq⟩ := hraced
  have hasRead := hread e he
  rw [heq] at hasRead
  cases hasRead

end TradingPlatform
