import TradingPlatform.Lib.Sessions
import TradingPlatform.Lib.Table

/-!
# Configuration snapshots

The `ConfigSnapshotRepository` of `services/strategy_library/repository.py`, for one paper run: snapshots are added, staged behind
the active one and activated by a cycle. A call reads the row of the run in one statement and writes it in another; the claim of
the pending slot is one conditional update, committed with the row it belongs to. A configuration stands for its text.
-/

namespace TradingPlatform

/-- `TradingConfigSnapshot`, of one paper run. -/
structure TradingConfigSnapshot where
  configSnapshotId : String
  configPayload : String
  configHash : String
  createdBy : String
  effectiveCycleId : String
  previousSnapshotId : Option String
  deriving DecidableEq, Repr

/-- `ConfigSnapshot`, before it is stored. Its constructor has checked the hash. -/
structure ConfigSnapshot where
  configSnapshotId : Option String
  config : String
  configHash : String
  createdBy : String
  effectiveCycleId : String
  previousSnapshotId : Option String
  deriving DecidableEq, Repr

/-- The row a snapshot is stored as: an id that is missing or empty is drawn. -/
def ConfigSnapshot.row (s : ConfigSnapshot) (uuid : String) : TradingConfigSnapshot where
  configSnapshotId := (s.configSnapshotId.filter fun id => id != "").getD uuid
  configPayload := s.config
  configHash := s.configHash
  createdBy := s.createdBy
  effectiveCycleId := s.effectiveCycleId
  previousSnapshotId := s.previousSnapshotId

/-- The columns of `PaperRun` that a configuration is in. -/
structure PaperRunConfig where
  executionProfile : String
  activeConfigSnapshotId : Option String := none
  activeConfigHash : Option String := none
  pendingConfigSnapshotId : Option String := none
  pendingConfigHash : Option String := none
  deriving DecidableEq, Repr

/-- What happened to the pending slot: what was put in it, and the hash that was made for; what was activated, what was in the
slot then, which hash it replaced, and whether the call found in the slot what it had read; and what was cleared. -/
inductive ConfigEvent where
  | staged (snapshotId : String) (base : Option String)
  | activated (snapshotId : String) (taken : Option (String × Option String)) (replaced : Option String) (asRead : Bool)
  | cleared (taken : Option (String × Option String))
  deriving DecidableEq, Repr

/-- The row of the run, its snapshots, and what happened to its pending slot, with the base of the snapshot that is in it. -/
structure ConfigStore where
  run : PaperRunConfig
  snapshots : List TradingConfigSnapshot := []
  pendingBase : Option String := none
  events : List ConfigEvent := []
  deriving DecidableEq, Repr

/-! ## Single statements -/

/-- The condition of the updates that claim the pending slot. -/
def PaperRunConfig.claimable (run : PaperRunConfig) (base : Option String) : Bool :=
  decide (run.activeConfigHash = base) && run.pendingConfigSnapshotId.isNone

/-- A snapshot in the pending slot. -/
def ConfigStore.stage (s : ConfigStore) (row : TradingConfigSnapshot) (base : Option String) : ConfigStore :=
  { s with
    run := { s.run with pendingConfigSnapshotId := some row.configSnapshotId, pendingConfigHash := some row.configHash }
    pendingBase := base
    events := s.events ++ [.staged row.configSnapshotId base] }

/-- The unique columns of a snapshot are free. `elsewhere` tells whether another run has the id. -/
def ConfigStore.free (s : ConfigStore) (row : TradingConfigSnapshot) (elsewhere : Bool) : Bool :=
  !elsewhere && s.snapshots.all fun r => decide (r.configSnapshotId ≠ row.configSnapshotId ∧ r.configHash ≠ row.configHash)

/-- `stage_execution_profile_snapshot`: one transaction, which changes all or nothing. -/
def ConfigStore.stageExecutionProfileSnapshot (s : ConfigStore) (row : TradingConfigSnapshot) (elsewhere : Bool)
    (executionProfile : String) (base : Option String) : ConfigStore :=
  if s.run.claimable base && s.free row elsewhere then
    ({ s with run := { s.run with executionProfile }, snapshots := s.snapshots ++ [row] } : ConfigStore).stage row base
  else s

/-- What is in the pending slot, and the hash it was made for. -/
def ConfigStore.taken (s : ConfigStore) : Option (String × Option String) :=
  s.run.pendingConfigSnapshotId.map fun id => (id, s.pendingBase)

/-- The flush of `activate_pending`: the columns that differ from the loaded ones. -/
def ConfigStore.activate (s : ConfigStore) (loaded : PaperRunConfig) (pending : TradingConfigSnapshot) : ConfigStore :=
  { s with
    run := { s.run with
      activeConfigSnapshotId :=
        Table.changedColumn loaded.activeConfigSnapshotId (some pending.configSnapshotId) s.run.activeConfigSnapshotId
      activeConfigHash := Table.changedColumn loaded.activeConfigHash (some pending.configHash) s.run.activeConfigHash
      pendingConfigSnapshotId := Table.changedColumn loaded.pendingConfigSnapshotId none s.run.pendingConfigSnapshotId
      pendingConfigHash := Table.changedColumn loaded.pendingConfigHash none s.run.pendingConfigHash }
    events := s.events ++ [.activated pending.configSnapshotId s.taken s.run.activeConfigHash
      (decide (s.run.pendingConfigSnapshotId = loaded.pendingConfigSnapshotId))] }

/-- The flush of `clear_pending`: a slot that was empty when it was loaded is not written. -/
def ConfigStore.clear (s : ConfigStore) (loaded : PaperRunConfig) : ConfigStore :=
  if loaded.pendingConfigSnapshotId.isNone then s
  else { s with
    run := { s.run with
      pendingConfigSnapshotId := Table.changedColumn loaded.pendingConfigSnapshotId none s.run.pendingConfigSnapshotId
      pendingConfigHash := Table.changedColumn loaded.pendingConfigHash none s.run.pendingConfigHash }
    events := s.events ++ [.cleared s.taken] }

/-! ## Calls -/

/-- Where a call stands. -/
inductive ConfigCall where
  /-- `create_snapshot`, before it reads the run, before it looks for its hash, and before it writes. -/
  | create (snapshot : ConfigSnapshot) (base : Option String)
  | lookup (snapshot : ConfigSnapshot) (base : Option String) (loaded : PaperRunConfig)
  | claim (existing : TradingConfigSnapshot) (base : Option String)
  | insert (snapshot : ConfigSnapshot) (base : Option String) (loaded : PaperRunConfig)
  /-- `stage_execution_profile_snapshot`. -/
  | stage (snapshot : ConfigSnapshot) (executionProfile : String) (base : Option String)
  /-- `activate_pending`, before it reads the run and its pending snapshot, and before it writes. -/
  | activatePending (cycleId : String)
  | activating (loaded : PaperRunConfig) (pending : TradingConfigSnapshot)
  /-- `clear_pending`, before its read and before its write. -/
  | clearPending
  | clearing (loaded : PaperRunConfig)

/-- The id a statement draws, and whether another run has the id of its snapshot. -/
structure ConfigInput where
  uuid : String
  elsewhere : Bool := false

/-- The insertion of `create_snapshot`: the first configuration of a run is active at once, by the key of the run. -/
def ConfigStore.insert (s : ConfigStore) (row : TradingConfigSnapshot) (elsewhere : Bool) (base : Option String)
    (loaded : PaperRunConfig) : ConfigStore :=
  if s.free row elsewhere then
    if loaded.activeConfigSnapshotId.isNone then
      { s with
        run := { s.run with activeConfigSnapshotId := some row.configSnapshotId, activeConfigHash := some row.configHash }
        snapshots := s.snapshots ++ [row] }
    else if s.run.claimable base then ({ s with snapshots := s.snapshots ++ [row] } : ConfigStore).stage row base
    else s
  else s

/-- The next statement of a call. A call that returns or raises is gone. -/
@[grind =] def ConfigCall.next (input : ConfigInput) : ConfigCall → ConfigStore → Option ConfigCall × ConfigStore
  | .create snapshot base, s =>
    (if s.run.claimable base then some (.lookup snapshot base s.run) else none, s)
  | .lookup snapshot base loaded, s =>
    match s.snapshots.find? fun r => decide (r.configHash = snapshot.configHash) with
    | some existing =>
      (if loaded.activeConfigSnapshotId = some existing.configSnapshotId then none else some (.claim existing base), s)
    | none => (some (.insert snapshot base loaded), s)
  | .claim existing base, s => (none, if s.run.claimable base then s.stage existing base else s)
  | .insert snapshot base loaded, s => (none, s.insert (snapshot.row input.uuid) input.elsewhere base loaded)
  | .stage snapshot executionProfile base, s =>
    (none, s.stageExecutionProfileSnapshot (snapshot.row input.uuid) input.elsewhere executionProfile base)
  | .activatePending cycleId, s =>
    match s.run.pendingConfigSnapshotId.bind fun id => s.snapshots.find? fun r => decide (r.configSnapshotId = id) with
    | none => (none, s)
    | some pending =>
      (if pending.effectiveCycleId = cycleId ∨ pending.effectiveCycleId = "NEXT_CYCLE" then some (.activating s.run pending)
        else none, s)
  | .activating loaded pending, s => (none, s.activate loaded pending)
  | .clearPending, s => (some (.clearing s.run), s)
  | .clearing loaded, s => (none, s.clear loaded)

/-- The calls that begin. -/
@[grind =] def ConfigCall.Starts : ConfigCall → Prop
  | .create _ _ | .stage _ _ _ | .activatePending _ | .clearPending => True
  | _ => False

/-- The store after statements in an order. -/
def ConfigStore.runConfig (s : ConfigStore) (ops : List (Sessions.Op ConfigCall ConfigInput)) : ConfigStore :=
  (Sessions.World.run ConfigCall.next { stored := s } ops).stored

end TradingPlatform
