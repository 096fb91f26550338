import Mathlib.Algebra.Order.Ring.Int
import TradingPlatform.Engine.Exchange

/-!
# The account writer

`infrastructure/account_writer.py`: a registry outside every database that says which database an account is bound to and
which process may write to it. Each operation reads the registry, checks and writes it under one lock, so it is one step here;
a raise leaves the registry as it was. Instants are microseconds. A registry file that cannot be read is left out.
-/

namespace TradingPlatform

/-! ## Owners -/

/-- `ProcessLiveness`. -/
inductive ProcessLiveness where
  | alive | dead | unknown
  deriving DecidableEq, Repr

/-- What a process brings to a call: the machine it runs on and what it sees of the other processes. -/
structure WriterProcess where
  hostname : String
  casefold : String → String
  pid : ℕ
  /-- `uuid.uuid4().hex`. -/
  uuidHex : String
  /-- `_probe_process_liveness`. -/
  probe : ℤ → ProcessLiveness

/-- The characters `str.strip` and `int` skip. -/
def isPythonSpace (c : Char) : Bool :=
  let n := c.toNat
  decide (9 ≤ n ∧ n ≤ 13 ∨ 28 ≤ n ∧ n ≤ 32 ∨ n = 0x85 ∨ n = 0xA0 ∨ n = 0x1680 ∨ 0x2000 ≤ n ∧ n ≤ 0x200A ∨ n = 0x2028 ∨
    n = 0x2029 ∨ n = 0x202F ∨ n = 0x205F ∨ n = 0x3000)

/-- `str.strip`. -/
def strip (text : String) : String :=
  String.ofList ((text.toList.dropWhile isPythonSpace).reverse.dropWhile isPythonSpace).reverse

/-- The digits of a number, with single underscores between them. -/
def digitsValue : List Char → Option ℕ → Option ℕ
  | [], value => value
  | '_' :: c :: rest, some value => if c.isDigit then digitsValue rest (some (value * 10 + (c.toNat - '0'.toNat))) else none
  | c :: rest, value => if c.isDigit then digitsValue rest (some (value.getD 0 * 10 + (c.toNat - '0'.toNat))) else none

/-- `int` of a text. -/
def pythonInt (text : String) : Option ℤ :=
  match (strip text).toList with
  | '-' :: digits => (digitsValue digits none).map fun n => -(n : ℤ)
  | '+' :: digits => (digitsValue digits none).map fun n => (n : ℤ)
  | digits => (digitsValue digits none).map fun n => (n : ℤ)

/-- `_owner_pid`: the process of an owner of the form `host:pid` on this machine. -/
def ownerPid (p : WriterProcess) (ownerId : String) : Option ℤ :=
  match ownerId.toList.splitOn ':' with
  | [host, rawPid] =>
    if p.casefold (String.ofList host) ≠ p.casefold p.hostname then none
    else (pythonInt (String.ofList rawPid)).filter fun pid => decide (0 < pid)
  | _ => none

/-- `_dead_local_supervisor_owner`: an owner that is malformed or on another machine is unknown. -/
def deadLocalSupervisorOwner (p : WriterProcess) (ownerId : String) : ProcessLiveness :=
  match ownerPid p ownerId with
  | none => .unknown
  | some pid => p.probe pid

/-! ## The registry -/

/-- `AccountWriterCapability`. -/
structure AccountWriterCapability where
  accountScopeKey : String
  databaseIdentity : String
  ownerId : String
  generation : ℤ
  registryIdentity : String
  deriving DecidableEq, Repr

/-- `AccountWriterLease`. -/
structure AccountWriterLease where
  capability : AccountWriterCapability
  acquiredAt : ℤ
  leaseExpiresAt : ℤ
  hostIdentity : String
  deriving DecidableEq, Repr

/-- `operator_binding_metadata`; `bound_at` of a binding and `rebound_at` of a rebinding are one field. -/
structure OperatorBindingMetadata where
  operatorIdentity : String
  operatorReason : String
  boundAt : ℤ
  deriving DecidableEq, Repr

/-- What the registry holds of an account. A key that is absent is none; an account that is absent has no key. -/
structure AccountRecord where
  accountScopeKey : Option String := none
  boundDatabaseIdentity : Option String := none
  ownerId : Option String := none
  generation : Option ℤ := none
  leaseAcquiredAt : Option ℤ := none
  leaseRenewedAt : Option ℤ := none
  leaseExpiresAt : Option ℤ := none
  hostIdentity : Option String := none
  operatorBindingMetadata : Option OperatorBindingMetadata := none
  deriving DecidableEq, Repr

/-- `int(current.get("generation") or 0)`. -/
def AccountRecord.currentGeneration (r : AccountRecord) : ℤ := r.generation.getD 0

/-- The registry files of the machine by their resolved paths, and the records of each by account. -/
structure Registries where
  record : String → String → AccountRecord := fun _ _ => {}

/-- A record is replaced. -/
def Registries.write (r : Registries) (path key : String) (value : AccountRecord) : Registries :=
  { record := fun p k => if p = path ∧ k = key then value else r.record p k }

@[simp] theorem Registries.record_write_self (r : Registries) (path key : String) (value : AccountRecord) :
    (r.write path key value).record path key = value := by
  simp [Registries.write]

theorem Registries.record_write_other {r : Registries} {path path' key key' : String} {value : AccountRecord}
    (h : ¬(path' = path ∧ key' = key)) : (r.write path key value).record path' key' = r.record path' key' := by
  simp [Registries.write, h]

/-- Where the registry is: `registry_path`, and how a path is resolved. -/
structure RegistryLocation where
  registryPath : String
  resolve : String → String

/-- The file of `registry_path`. -/
def RegistryLocation.file (l : RegistryLocation) : String := l.resolve l.registryPath

/-- The error of the fence: the code, and the detail if there is one. -/
def fenceError (code : String) (detail : String := "") : PyError :=
  .accountWriterFence (if detail = "" then code else code ++ ": " ++ detail)

/-! ## Binding -/

/-- The operator's side of a binding: both texts are required. -/
def operatorMetadata (operatorIdentity operatorReason : String) (now : ℤ) : Except PyError OperatorBindingMetadata :=
  if strip operatorIdentity = "" ∨ strip operatorReason = "" then .error (fenceError "OPERATOR_BINDING_METADATA_MISSING")
  else .ok { operatorIdentity := strip operatorIdentity, operatorReason := strip operatorReason, boundAt := now }

/-- `bind_account`: the record that was written and the registry. -/
def bindAccount (l : RegistryLocation) (r : Registries) (accountScopeKey databaseId operatorIdentity operatorReason : String)
    (now : ℤ) : Except PyError (AccountRecord × Registries) := do
  let metadata ← operatorMetadata operatorIdentity operatorReason now
  let current := r.record l.file accountScopeKey
  if current.boundDatabaseIdentity.any fun bound => decide (bound ≠ databaseId) then
    .error (fenceError "ACCOUNT_ALREADY_BOUND_TO_DIFFERENT_DATABASE")
  else
    let value : AccountRecord :=
      { current with accountScopeKey := some accountScopeKey, boundDatabaseIdentity := some databaseId,
                     operatorBindingMetadata := some metadata }
    .ok (value, r.write l.file accountScopeKey value)

/-- The preflight of `rebind_account`, before the lock: what the three callbacks answered. -/
def rebindPreflight (exchangeIsFlat exchangeOpenOrdersEmpty newDatabaseRecoveryClear : Bool) : Except PyError Unit :=
  if !exchangeIsFlat || !exchangeOpenOrdersEmpty || !newDatabaseRecoveryClear then
    .error (fenceError "ACCOUNT_REBIND_REQUIRES_MANUAL_RECOVERY")
  else .ok ()

/-- The part of `rebind_account` under the lock. The generation stays, what a writer had is dropped. -/
def rebindLocked (l : RegistryLocation) (r : Registries) (accountScopeKey databaseId : String)
    (metadata : OperatorBindingMetadata) (now : ℤ) : Except PyError (AccountRecord × Registries) :=
  let current := r.record l.file accountScopeKey
  if current = {} then .error (fenceError "ACCOUNT_BINDING_REQUIRED")
  else if current.leaseExpiresAt.any fun expiry => decide (now < expiry) then
    .error (fenceError "ACCOUNT_REBIND_REQUIRES_INACTIVE_WRITER")
  else
    let value : AccountRecord :=
      { current with boundDatabaseIdentity := some databaseId, operatorBindingMetadata := some metadata, ownerId := none,
                     leaseAcquiredAt := none, leaseRenewedAt := none, leaseExpiresAt := none, hostIdentity := none }
    .ok (value, r.write l.file accountScopeKey value)

/-- `rebind_account`. -/
def rebindAccount (l : RegistryLocation) (r : Registries) (accountScopeKey databaseId operatorIdentity operatorReason : String)
    (exchangeIsFlat exchangeOpenOrdersEmpty newDatabaseRecoveryClear : Bool) (now : ℤ) :
    Except PyError (AccountRecord × Registries) := do
  let metadata ← operatorMetadata operatorIdentity operatorReason now
  rebindPreflight exchangeIsFlat exchangeOpenOrdersEmpty newDatabaseRecoveryClear
  rebindLocked l r accountScopeKey databaseId metadata now

/-! ## Leases -/

/-- `owner_id or f"{hostname}:{pid}:{uuid}"`. -/
def WriterProcess.owner (p : WriterProcess) (ownerId : Option String) : String :=
  ((ownerId.filter fun o => decide (o ≠ "")).getD (p.hostname ++ ":" ++ toString p.pid ++ ":" ++ p.uuidHex))

/-- The lease of a record is unexpired at an instant. -/
def AccountRecord.unexpired (r : AccountRecord) (observed : ℤ) : Bool :=
  r.leaseExpiresAt.any fun expiry => decide (observed < expiry)

/-- `str(current.get("owner_id") or "")`. -/
def AccountRecord.existingOwner (r : AccountRecord) : String := r.ownerId.getD ""

/-- The generation of a grant: the same owner keeps that of its unexpired lease, any other grant opens the next. -/
def AccountRecord.nextGeneration (r : AccountRecord) (owner : String) (observed : ℤ) : ℤ :=
  if r.existingOwner = owner ∧ r.unexpired observed then r.currentGeneration else r.currentGeneration + 1

/-- `acquire_account_writer`: the instant `observed` is read before the lock is taken. -/
def acquireAccountWriter (l : RegistryLocation) (r : Registries) (p : WriterProcess) (accountScopeKey databaseId : String)
    (ownerId : Option String) (leaseDuration observed : ℤ) : Except PyError (AccountWriterLease × Registries) :=
  let owner := p.owner ownerId
  let current := r.record l.file accountScopeKey
  if current = {} then .error (fenceError "ACCOUNT_BINDING_REQUIRED")
  else
    match current.boundDatabaseIdentity with
    | none => .error (fenceError "ACCOUNT_BINDING_REQUIRED")
    | some bound =>
      if bound ≠ databaseId then .error (fenceError "ACCOUNT_BOUND_TO_DIFFERENT_DATABASE")
      else if current.unexpired observed ∧ current.existingOwner ≠ owner ∧
          deadLocalSupervisorOwner p current.existingOwner ≠ .dead then
        .error (fenceError "ACCOUNT_WRITER_ALREADY_HELD")
      else
        let generation := current.nextGeneration owner observed
        let expiry := observed + leaseDuration
        let value : AccountRecord :=
          { current with accountScopeKey := some accountScopeKey, boundDatabaseIdentity := some databaseId,
                         ownerId := some owner, generation := some generation, leaseAcquiredAt := some observed,
                         leaseRenewedAt := some observed, leaseExpiresAt := some expiry, hostIdentity := some p.hostname }
        let capability : AccountWriterCapability :=
          { accountScopeKey, databaseIdentity := databaseId, ownerId := owner, generation,
            registryIdentity := l.registryPath }
        .ok ({ capability, acquiredAt := observed, leaseExpiresAt := expiry, hostIdentity := p.hostname },
          r.write l.file accountScopeKey value)

/-- `_assert_current`. -/
def assertCurrent (current : AccountRecord) (capability : AccountWriterCapability) (observed : ℤ) : Except PyError Unit :=
  if current.accountScopeKey ≠ some capability.accountScopeKey then
    .error (fenceError "ACCOUNT_WRITER_FENCE_REJECTED" "scope")
  else if current.boundDatabaseIdentity ≠ some capability.databaseIdentity then
    .error (fenceError "ACCOUNT_WRITER_FENCE_REJECTED" "database")
  else if current.ownerId ≠ some capability.ownerId ∨ current.currentGeneration ≠ capability.generation then
    .error (fenceError "ACCOUNT_WRITER_FENCE_REJECTED" "owner or generation")
  else if !current.unexpired observed then .error (fenceError "ACCOUNT_WRITER_FENCE_REJECTED" "lease expired")
  else .ok ()

/-- The record a capability stands for, in the registry it names. -/
def Registries.current (r : Registries) (l : RegistryLocation) (capability : AccountWriterCapability) : AccountRecord :=
  r.record (l.resolve capability.registryIdentity) capability.accountScopeKey

/-- `renew_account_writer`: the instant `observed` is read before the lock is taken. -/
def renewAccountWriter (l : RegistryLocation) (r : Registries) (lease : AccountWriterLease) (leaseDuration observed : ℤ) :
    Except PyError (AccountWriterLease × Registries) := do
  let current := r.current l lease.capability
  assertCurrent current lease.capability observed
  let expiry := observed + leaseDuration
  return ({ lease with leaseExpiresAt := expiry },
    r.write (l.resolve lease.capability.registryIdentity) lease.capability.accountScopeKey
      { current with leaseRenewedAt := some observed, leaseExpiresAt := some expiry })

/-- `release_account_writer`: the clock is read twice under the lock. -/
def releaseAccountWriter (l : RegistryLocation) (r : Registries) (lease : AccountWriterLease) (now releasedAt : ℤ) :
    Except PyError Registries := do
  let current := r.current l lease.capability
  assertCurrent current lease.capability now
  return r.write (l.resolve lease.capability.registryIdentity) lease.capability.accountScopeKey
    { current with leaseExpiresAt := some releasedAt }

/-- `mutation_guard`: whether the body runs. The lock is held until it ends. -/
def mutationGuard (l : RegistryLocation) (r : Registries) (capability : AccountWriterCapability) (now : ℤ) :
    Except PyError Unit :=
  if l.resolve capability.registryIdentity ≠ l.file then
    .error (fenceError "ACCOUNT_WRITER_FENCE_REJECTED" "registry identity")
  else assertCurrent (r.current l capability) capability now

/-! ## Runs -/

/-- A call of some process, under the registry lock. -/
inductive WriterCall where
  | bind (accountScopeKey databaseId operatorIdentity operatorReason : String)
  | rebind (accountScopeKey databaseId operatorIdentity operatorReason : String)
      (exchangeIsFlat exchangeOpenOrdersEmpty newDatabaseRecoveryClear : Bool)
  | acquire (process : WriterProcess) (accountScopeKey databaseId : String) (ownerId : Option String)
      (leaseDuration observed : ℤ)
  | renew (lease : AccountWriterLease) (leaseDuration observed : ℤ)
  | release (lease : AccountWriterLease) (releasedAt : ℤ)
  | guard (capability : AccountWriterCapability)

/-- The registry after an operation: a raise leaves it as it was. -/
def keepOnRaise {α : Type} (r : Registries) (out : Except PyError (α × Registries)) : Registries :=
  match out with
  | .error _ => r
  | .ok (_, r') => r'

/-- The registry after a call that took the lock at an instant. -/
def WriterCall.apply (l : RegistryLocation) (r : Registries) : ℤ × WriterCall → Registries
  | (now, .bind key databaseId operatorIdentity operatorReason) =>
    keepOnRaise r (bindAccount l r key databaseId operatorIdentity operatorReason now)
  | (now, .rebind key databaseId operatorIdentity operatorReason flat ordersEmpty recoveryClear) =>
    keepOnRaise r (rebindAccount l r key databaseId operatorIdentity operatorReason flat ordersEmpty recoveryClear now)
  | (_, .acquire process key databaseId ownerId leaseDuration observed) =>
    keepOnRaise r (acquireAccountWriter l r process key databaseId ownerId leaseDuration observed)
  | (_, .renew lease leaseDuration observed) => keepOnRaise r (renewAccountWriter l r lease leaseDuration observed)
  | (now, .release lease releasedAt) =>
    keepOnRaise r ((releaseAccountWriter l r lease now releasedAt).map fun r' => ((), r'))
  | (_, .guard _) => r

/-- The registry after the calls, in the order in which they took the lock. -/
def runCalls (l : RegistryLocation) (r : Registries) (calls : List (ℤ × WriterCall)) : Registries :=
  calls.foldl (WriterCall.apply l) r

/-! ## A rebinding beside a writer -/

/-- The arguments of a `rebind_account` call. -/
structure RebindRequest where
  accountScopeKey : String
  databaseId : String
  operatorIdentity : String
  operatorReason : String

/-- How far a `rebind_account` call is: which callbacks have answered yes, and the account as it was when the binding was
written. -/
inductive RebindPhase where
  | start | flatSeen | ordersSeen | cleared
  | bound (account : AuthoritativeAccountSnapshot)
  | raised (e : PyError)
  deriving DecidableEq

/-- The registry, the exchange account and a `rebind_account` call in progress. -/
structure RebindState where
  registries : Registries
  account : AuthoritativeAccountSnapshot
  phase : RebindPhase := .start

/-- What may happen next while the call is in progress. -/
inductive RebindEvent where
  /-- The call goes on to its next callback or to the lock. -/
  | proceed (recoveryClear : Bool) (now : ℤ)
  /-- A call of another process. -/
  | call (c : ℤ × WriterCall)
  /-- A mutation of the account inside `mutation_guard`. -/
  | mutate (capability : AccountWriterCapability) (now : ℤ)
      (effect : AuthoritativeAccountSnapshot → AuthoritativeAccountSnapshot)

/-- A callback that answers no ends the call. -/
def RebindPhase.answered (next : RebindPhase) (yes : Bool) : RebindPhase :=
  if yes then next else .raised (fenceError "ACCOUNT_REBIND_REQUIRES_MANUAL_RECOVERY")

/-- The next part of the call: each callback reports the account at this moment, the last part holds the lock. -/
def RebindState.proceed (l : RegistryLocation) (q : RebindRequest) (s : RebindState) (recoveryClear : Bool) (now : ℤ) :
    RebindState :=
  match s.phase, operatorMetadata q.operatorIdentity q.operatorReason now with
  | .start, .error e => { s with phase := .raised e }
  | .start, .ok _ => { s with phase := .answered .flatSeen (decide (s.account.positions = [])) }
  | .flatSeen, _ => { s with phase := .answered .ordersSeen (decide (s.account.pendingOrders = [])) }
  | .ordersSeen, _ => { s with phase := .answered .cleared recoveryClear }
  | .cleared, .error e => { s with phase := .raised e }
  | .cleared, .ok metadata =>
    match rebindLocked l s.registries q.accountScopeKey q.databaseId metadata now with
    | .error e => { s with phase := .raised e }
    | .ok (_, registries) => { s with registries, phase := .bound s.account }
  | .bound _, _ => s
  | .raised _, _ => s

/-- One event. -/
def RebindState.step (l : RegistryLocation) (q : RebindRequest) (s : RebindState) : RebindEvent → RebindState
  | .proceed recoveryClear now => s.proceed l q recoveryClear now
  | .call c => { s with registries := WriterCall.apply l s.registries c }
  | .mutate capability now effect =>
    match mutationGuard l s.registries capability now with
    | .error _ => s
    | .ok _ => { s with account := effect s.account }

end TradingPlatform
