import Mathlib.Algebra.Order.Ring.Int
import TradingPlatform.Lib.Fence
import TradingPlatform.Lib.Table

/-!
# Scheduler coordination

`execution/scheduler_coordination.py`: the lease a scheduler holds while it runs, and the claim of a slot. Each function is cut
at its statements, and between two statements of one call those of the others may run. Instants and spans are microseconds;
every instant is in the one time zone of the database.
-/

namespace TradingPlatform

/-- `SchedulerCoordinator` without its cache of tokens. -/
structure SchedulerCoordinator where
  instanceId : String
  hostname : String
  processId : ℤ
  deploymentSha : String := ""
  deriving DecidableEq, Repr

/-- `_local_pid_is_alive`: what the operating system says of a process id that is positive. -/
def localPidIsAlive (processes : ℤ → Bool) (pid : ℤ) : Bool := decide (0 < pid) && processes pid

/-- `fencing_token or self._fencing_tokens.get(...)`: the token of the caller, or the one the coordinator remembers. -/
def tokenOr (fencingToken known : Option ℤ) : Option ℤ := (fencingToken.filter fun token => decide (token ≠ 0)).or known

/-! ## The lease -/

/-- `SchedulerLease`, without the name it is stored under. -/
structure SchedulerLease where
  ownerId : String
  hostname : String
  processId : ℤ
  acquiredAt : ℤ
  heartbeatAt : ℤ
  expiresAt : ℤ
  fencingToken : ℤ := 1
  deriving DecidableEq, Repr

/-- The owner of a lease and its token. -/
def SchedulerLease.fence (l : SchedulerLease) : Fence String ℤ := ⟨l.ownerId, l.fencingToken⟩

/-- The arguments of `acquire_or_renew_lease` for the lease. -/
structure LeaseRequest where
  observedAt : ℤ
  ttl : ℤ
  fencingToken : Option ℤ := none
  deriving DecidableEq, Repr

/-- The row a coordinator writes when it is granted a lease. -/
def SchedulerCoordinator.leaseRow (c : SchedulerCoordinator) (r : LeaseRequest) (token : ℤ) : SchedulerLease where
  ownerId := c.instanceId
  hostname := c.hostname
  processId := c.processId
  acquiredAt := r.observedAt
  heartbeatAt := r.observedAt
  expiresAt := r.observedAt + r.ttl
  fencingToken := token

/-- `dead_local_owner`: the lease of another process of this machine that is gone. -/
def SchedulerCoordinator.deadLocalOwner (c : SchedulerCoordinator) (processes : ℤ → Bool) (lease : SchedulerLease) : Bool :=
  decide (lease.ownerId ≠ c.instanceId) && decide (lease.hostname = c.hostname) &&
    decide (lease.processId ≠ c.processId) && !localPidIsAlive processes lease.processId

/-- `next_token`: a takeover counts the token up, and so does a renewal after the lease expired. -/
def SchedulerCoordinator.nextToken (c : SchedulerCoordinator) (r : LeaseRequest) (lease : SchedulerLease)
    (deadLocalOwner : Bool) : ℤ :=
  let takeover := decide (lease.ownerId ≠ c.instanceId) || decide (lease.expiresAt ≤ r.observedAt) || deadLocalOwner
  (if lease.fencingToken = 0 then 1 else lease.fencingToken) + if takeover then 1 else 0

/-- A call between two of its statements. -/
inductive LeaseCall where
  /-- No lease was found: it is to be inserted. -/
  | insert (c : SchedulerCoordinator) (r : LeaseRequest)
  /-- The owner of the lease that was read is gone: its lease is to expire. -/
  | expire (c : SchedulerCoordinator) (r : LeaseRequest) (lease : SchedulerLease)
  /-- The lease is to be written with the next token. -/
  | update (c : SchedulerCoordinator) (r : LeaseRequest) (lease : SchedulerLease) (token : ℤ)
  /-- The lease is to be released. -/
  | release (c : SchedulerCoordinator) (expectedToken now : ℤ)
  deriving DecidableEq, Repr

/-- `acquire_or_renew_lease` up to its first write; none if it returns false. -/
def SchedulerCoordinator.acquireOrRenewLease (c : SchedulerCoordinator) (r : LeaseRequest) (processes : ℤ → Bool) :
    Option SchedulerLease → Option LeaseCall
  | none => some (.insert c r)
  | some lease =>
    if lease.ownerId = c.instanceId ∧ r.fencingToken.isSome ∧ some lease.fencingToken ≠ r.fencingToken then none
    else if c.deadLocalOwner processes lease then some (.expire c r lease)
    else some (.update c r lease (c.nextToken r lease false))

/-- The predicate of the update that expires the lease of a dead owner. -/
def SchedulerCoordinator.expires (c : SchedulerCoordinator) (seen lease : SchedulerLease) : Bool :=
  decide (lease.ownerId = seen.ownerId) && decide (lease.processId = seen.processId) && decide (lease.hostname = c.hostname)

/-- The predicate of the update that takes or renews the lease. -/
def SchedulerCoordinator.mayTake (c : SchedulerCoordinator) (r : LeaseRequest) (lease : SchedulerLease) : Bool :=
  decide (lease.ownerId = c.instanceId) || decide (lease.expiresAt ≤ r.observedAt)

/-- The predicate of the update of `release_lease`. -/
def SchedulerCoordinator.holds (c : SchedulerCoordinator) (expectedToken : ℤ) (lease : SchedulerLease) : Bool :=
  decide (lease.ownerId = c.instanceId) && decide (lease.fencingToken = expectedToken)

/-- `release_lease` up to its update; none if no token is known. -/
def SchedulerCoordinator.releaseLease (c : SchedulerCoordinator) (fencingToken known : Option ℤ) (now : ℤ) :
    Option LeaseCall :=
  (tokenOr fencingToken known).map fun expectedToken => .release c expectedToken now

/-- `validate_fence`. -/
def validateFence (lease : Option SchedulerLease) (ownerId : String) (fencingToken observedAt : ℤ) : Bool :=
  lease.any fun lease =>
    decide (lease.ownerId = ownerId) && decide (lease.fencingToken = fencingToken) && decide (observedAt < lease.expiresAt)

/-- One lease row, the tokens the coordinators remember, the calls between two statements, and the fences that were granted. -/
structure LeaseWorld where
  lease : Option SchedulerLease := none
  fencingTokens : String → Option ℤ := fun _ => none
  calls : ℕ → Option LeaseCall := fun _ => none
  granted : List (Fence String ℤ) := []

/-- A lease before any call: its owner was granted its token. -/
def LeaseWorld.start (lease : Option SchedulerLease) (fencingTokens : String → Option ℤ) : LeaseWorld :=
  { lease, fencingTokens, granted := (lease.map SchedulerLease.fence).toList }

/-- The coordinator is granted the lease with a token. -/
def LeaseWorld.grant (w : LeaseWorld) (c : SchedulerCoordinator) (r : LeaseRequest) (token : ℤ) : LeaseWorld :=
  { w with
    lease := some (c.leaseRow r token)
    fencingTokens := Function.update w.fencingTokens c.instanceId (some token)
    granted := w.granted ++ [⟨c.instanceId, token⟩] }

/-- The next statement of a call. -/
def LeaseCall.proceed (w : LeaseWorld) (call : ℕ) : LeaseCall → LeaseWorld
  | .insert c r =>
    let w := { w with calls := Function.update w.calls call none }
    if w.lease.isNone then w.grant c r 1 else w
  | .expire c r seen =>
    { w with
      lease := w.lease.map fun lease => if c.expires seen lease then { lease with expiresAt := r.observedAt } else lease
      calls := Function.update w.calls call (some (.update c r seen (c.nextToken r seen true))) }
  | .update c r _ token =>
    let w := { w with calls := Function.update w.calls call none }
    if w.lease.any (c.mayTake r) then w.grant c r token else w
  | .release c expectedToken now =>
    { w with
      lease := w.lease.map fun lease => if c.holds expectedToken lease then { lease with expiresAt := now } else lease
      calls := Function.update w.calls call none }

/-- A statement on the lease, with what the operating system says of the processes of the machine. -/
inductive LeaseOp where
  | acquireOrRenewLease (call : ℕ) (c : SchedulerCoordinator) (r : LeaseRequest) (processes : ℤ → Bool)
  | fencingToken (c : SchedulerCoordinator)
  | releaseLease (call : ℕ) (c : SchedulerCoordinator) (fencingToken : Option ℤ) (now : ℤ)
  | proceed (call : ℕ)

/-- A statement runs. -/
@[grind =] def LeaseWorld.step (w : LeaseWorld) : LeaseOp → LeaseWorld
  | .acquireOrRenewLease call c r processes =>
    { w with calls := Function.update w.calls call (c.acquireOrRenewLease r processes w.lease) }
  | .fencingToken c =>
    match w.lease with
    | none => w
    | some lease => { w with fencingTokens := Function.update w.fencingTokens c.instanceId (some lease.fencingToken) }
  | .releaseLease call c fencingToken now =>
    { w with calls := Function.update w.calls call (c.releaseLease fencingToken (w.fencingTokens c.instanceId) now) }
  | .proceed call =>
    match w.calls call with
    | none => w
    | some pending => pending.proceed w call

/-- The lease after a run. -/
def LeaseWorld.run (w : LeaseWorld) (ops : List LeaseOp) : LeaseWorld := ops.foldl LeaseWorld.step w

/-! ## The claim of a slot -/

/-- `SchedulerCycle`, without the job and the time that are the slot. -/
structure SchedulerCycle where
  schedulerCycleId : String
  schedulerInstanceId : String
  cycleSource : String
  runMode : String
  deploymentSha : String
  hostname : String
  processId : ℤ
  status : String := "claimed"
  startedAt : ℤ
  completedAt : Option ℤ := none
  failureReason : Option String := none
  fencingToken : Option ℤ := none
  deriving DecidableEq, Repr

/-- The arguments of `claim_cycle` for the slot, the token the coordinator remembers of `paper_runtime_cycle`, and the time the
row is built at. -/
structure CycleRequest where
  cycleSource : String := "runtime_scheduler"
  runMode : String := "paper"
  fencingToken : Option ℤ := none
  known : Option ℤ := none
  startedAt : ℤ
  deriving DecidableEq, Repr

/-- The row a coordinator inserts. -/
def SchedulerCoordinator.cycleRow (c : SchedulerCoordinator) (r : CycleRequest) (schedulerCycleId : String) :
    SchedulerCycle where
  schedulerCycleId
  schedulerInstanceId := c.instanceId
  cycleSource := r.cycleSource
  runMode := r.runMode
  deploymentSha := c.deploymentSha
  hostname := c.hostname
  processId := c.processId
  status := "claimed"
  startedAt := r.startedAt
  fencingToken := tokenOr r.fencingToken r.known

/-- `dead_local_claim`: the claim of another process of this machine that is gone. -/
def SchedulerCoordinator.deadLocalClaim (c : SchedulerCoordinator) (processes : ℤ → Bool) (existing : SchedulerCycle) : Bool :=
  decide (existing.status = "claimed") && decide (existing.hostname = c.hostname) &&
    decide (existing.schedulerInstanceId ≠ c.instanceId) && decide (existing.processId ≠ c.processId) &&
    !localPidIsAlive processes existing.processId

/-- The row as the session of a reclaiming coordinator holds it. -/
def SchedulerCoordinator.reclaimed (c : SchedulerCoordinator) (r : CycleRequest) (existing : SchedulerCycle) : SchedulerCycle :=
  { existing with
    schedulerInstanceId := c.instanceId
    cycleSource := r.cycleSource
    runMode := r.runMode
    deploymentSha := c.deploymentSha
    hostname := c.hostname
    processId := c.processId
    status := "claimed"
    startedAt := r.startedAt
    completedAt := none
    failureReason := some "reclaimed_from_dead_local_owner"
    fencingToken := tokenOr r.fencingToken r.known }

/-- The arguments of `finish_cycle`, and the time it ends the cycle at. -/
structure CycleFinish where
  schedulerCycleId : String
  status : String
  failureReason : Option String := none
  completedAt : ℤ
  deriving DecidableEq, Repr

/-- The row as the session of `finish_cycle` holds it. -/
def CycleFinish.finished (f : CycleFinish) (loaded : SchedulerCycle) : SchedulerCycle :=
  { loaded with status := f.status, completedAt := some f.completedAt, failureReason := f.failureReason }

/-- The update of a commit: the row of the same id, in the columns that changed. -/
def SchedulerCycle.commit (loaded assigned stored : SchedulerCycle) : SchedulerCycle :=
  if stored.schedulerCycleId ≠ loaded.schedulerCycleId then stored
  else
    { stored with
      schedulerInstanceId := Table.changedColumn loaded.schedulerInstanceId assigned.schedulerInstanceId
        stored.schedulerInstanceId
      cycleSource := Table.changedColumn loaded.cycleSource assigned.cycleSource stored.cycleSource
      runMode := Table.changedColumn loaded.runMode assigned.runMode stored.runMode
      deploymentSha := Table.changedColumn loaded.deploymentSha assigned.deploymentSha stored.deploymentSha
      hostname := Table.changedColumn loaded.hostname assigned.hostname stored.hostname
      processId := Table.changedColumn loaded.processId assigned.processId stored.processId
      status := Table.changedColumn loaded.status assigned.status stored.status
      startedAt := Table.changedColumn loaded.startedAt assigned.startedAt stored.startedAt
      completedAt := Table.changedColumn loaded.completedAt assigned.completedAt stored.completedAt
      failureReason := Table.changedColumn loaded.failureReason assigned.failureReason stored.failureReason
      fencingToken := Table.changedColumn loaded.fencingToken assigned.fencingToken stored.fencingToken }

/-- A call between two of its statements. -/
inductive CycleCall where
  /-- The insertion of `claim_cycle` violated the constraint of the slot. -/
  | conflict (r : CycleRequest)
  /-- The claim that was read is dead: the row is to be written. -/
  | reclaim (r : CycleRequest) (existing : SchedulerCycle)
  /-- `finish_cycle` has read the row. -/
  | finish (f : CycleFinish) (loaded : SchedulerCycle)
  deriving DecidableEq, Repr

/-- The row of a slot, the coordinators that are alive, the calls between two statements, and who was told it has the slot. -/
structure CycleWorld where
  row : Option SchedulerCycle := none
  alive : String → Bool
  calls : ℕ → Option (SchedulerCoordinator × CycleCall) := fun _ => none
  claimants : List SchedulerCoordinator := []

/-- The coordinator that wrote a row. -/
def SchedulerCycle.claimant (row : SchedulerCycle) : SchedulerCoordinator :=
  { instanceId := row.schedulerInstanceId, hostname := row.hostname, processId := row.processId,
    deploymentSha := row.deploymentSha }

/-- A slot before any call: a row that is there was claimed by the coordinator it names. -/
def CycleWorld.start (row : Option SchedulerCycle) (alive : String → Bool) : CycleWorld :=
  { row, alive, claimants := (row.map SchedulerCycle.claimant).toList }

/-- The processes of a coordinator's machine: the claimants that are alive, and others. -/
def CycleWorld.processes (w : CycleWorld) (c : SchedulerCoordinator) (others : ℤ → Bool) (pid : ℤ) : Bool :=
  others pid || w.claimants.any fun c' =>
    w.alive c'.instanceId && decide (c'.hostname = c.hostname) && decide (c'.processId = pid)

/-- The next statement of a call. -/
def CycleCall.proceed (w : CycleWorld) (call : ℕ) (c : SchedulerCoordinator) (others : ℤ → Bool) : CycleCall → CycleWorld
  | .conflict r =>
    let reclaimed := (w.row.filter (c.deadLocalClaim (w.processes c others))).map fun existing => (c, .reclaim r existing)
    { w with calls := Function.update w.calls call reclaimed }
  | .reclaim r existing =>
    let calls := Function.update w.calls call none
    if w.row.any fun row => decide (row.schedulerCycleId = existing.schedulerCycleId) then
      { w with row := w.row.map (existing.commit (c.reclaimed r existing)), calls, claimants := w.claimants ++ [c] }
    else { w with calls }
  | .finish f loaded =>
    { w with row := w.row.map (loaded.commit (f.finished loaded)), calls := Function.update w.calls call none }

/-- A statement on the slot, or the end of a coordinator. -/
inductive CycleOp where
  | claimCycle (call : ℕ) (c : SchedulerCoordinator) (r : CycleRequest) (schedulerCycleId : String)
  | finishCycle (call : ℕ) (c : SchedulerCoordinator) (f : CycleFinish)
  | proceed (call : ℕ) (others : ℤ → Bool)
  | exit (instanceId : String)

/-- A statement runs. A coordinator that has ended runs none. -/
def CycleWorld.step (w : CycleWorld) : CycleOp → CycleWorld
  | .claimCycle call c r schedulerCycleId =>
    if w.alive c.instanceId then
      match w.row with
      | none => { w with row := some (c.cycleRow r schedulerCycleId), claimants := w.claimants ++ [c] }
      | some _ => { w with calls := Function.update w.calls call (some (c, .conflict r)) }
    else w
  | .finishCycle call c f =>
    if w.alive c.instanceId then
      let loaded := w.row.filter fun row => decide (row.schedulerCycleId = f.schedulerCycleId)
      { w with calls := Function.update w.calls call (loaded.map fun row => (c, .finish f row)) }
    else w
  | .proceed call others =>
    match w.calls call with
    | none => w
    | some (c, pending) => if w.alive c.instanceId then pending.proceed w call c others else w
  | .exit instanceId => { w with alive := Function.update w.alive instanceId false }

/-- The slot after a run. -/
def CycleWorld.run (w : CycleWorld) (ops : List CycleOp) : CycleWorld := ops.foldl CycleWorld.step w

end TradingPlatform
