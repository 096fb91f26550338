import TradingPlatform.Lemmas.AccountWriter

/-!
# The account registry

What its lease fences over every run, and when a binding is written over an open position.
-/

namespace TradingPlatform

/-!
## The account writer fence

Over every run of the registry's operations, in the order in which they take its lock: generations never go back, one
capability passes at a time, a capability that a later generation replaced passes nowhere, and a lease that still runs changes
hands only when its holder is a process of this machine that is dead.
-/

/-! ## Grants -/

/-- The lease a call grants. -/
def grantedBy (l : RegistryLocation) (r : Registries) : ℤ × WriterCall → Option AccountWriterLease
  | (_, .acquire process key databaseId ownerId leaseDuration observed) =>
    (acquireAccountWriter l r process key databaseId ownerId leaseDuration observed).toOption.map Prod.fst
  | _ => none

/-- The leases a run grants. -/
def grants (l : RegistryLocation) : Registries → List (ℤ × WriterCall) → List AccountWriterLease
  | _, [] => []
  | r, c :: calls => (grantedBy l r c).toList ++ grants l (WriterCall.apply l r c) calls

/-- The generation of a grant is that of its account right after it. -/
theorem grantedBy_generation {l : RegistryLocation} {r : Registries} {c : ℤ × WriterCall} {lease : AccountWriterLease}
    (h : grantedBy l r c = some lease) :
    ((WriterCall.apply l r c).record l.file lease.capability.accountScopeKey).currentGeneration =
      lease.capability.generation := by
  obtain ⟨now, c⟩ := c
  cases c with
  | acquire process key databaseId ownerId leaseDuration observed =>
    simp only [grantedBy] at h
    cases hacquire : acquireAccountWriter l r process key databaseId ownerId leaseDuration observed with
    | error e =>
      rw [hacquire] at h
      cases h
    | ok out =>
      rw [hacquire] at h
      obtain rfl : out.1 = lease := by simpa [Except.toOption] using h
      obtain ⟨⟨value, hr, hvalue⟩, hkey, -⟩ := acquireAccountWriter_ok hacquire
      simp only [WriterCall.apply, hacquire, keepOnRaise]
      rw [hr, hkey, Registries.record_write_self, hvalue]
  | _ => cases h

/-- No grant of a run is above the generation its account ends with. -/
theorem grants_le {l : RegistryLocation} {r : Registries} {calls : List (ℤ × WriterCall)} {lease : AccountWriterLease}
    (h : lease ∈ grants l r calls) :
    lease.capability.generation ≤
      ((runCalls l r calls).record l.file lease.capability.accountScopeKey).currentGeneration := by
  induction calls generalizing r with
  | nil => nomatch h
  | cons c calls ih =>
    rcases List.mem_append.mp h with h | h
    · rw [Option.mem_toList] at h
      rw [← grantedBy_generation h]
      exact runCalls_grows l _ calls _ _
    · exact ih h

/-! ## Capabilities -/

/-- A capability that passes no guard, is not renewed and is not released. -/
def Rejected (l : RegistryLocation) (r : Registries) (capability : AccountWriterCapability) : Prop :=
  (∀ now, mutationGuard l r capability now ≠ .ok ()) ∧
    ∀ lease : AccountWriterLease, lease.capability = capability →
      (∀ leaseDuration observed out, renewAccountWriter l r lease leaseDuration observed ≠ .ok out) ∧
        ∀ now releasedAt out, releaseAccountWriter l r lease now releasedAt ≠ .ok out

/-- A capability of another generation than its account's is rejected. -/
theorem rejected_of_generation_ne {l : RegistryLocation} {r : Registries} {capability : AccountWriterCapability}
    (hr : r.OnlyAt l)
    (hne : (r.record l.file capability.accountScopeKey).currentGeneration ≠ capability.generation) :
    Rejected l r capability := by
  have hcurrent : ∀ observed, assertCurrent (r.current l capability) capability observed ≠ .ok () := by
    intro observed h
    obtain ⟨hkey, -, -, hgeneration, -⟩ := assertCurrent_ok h
    by_cases hfile : l.resolve capability.registryIdentity = l.file
    · rw [Registries.current, hfile] at hgeneration
      exact hne hgeneration
    · rw [Registries.current, hr _ _ hfile] at hkey
      nomatch hkey
  refine ⟨fun now h => hne (assertCurrent_ok (mutationGuard_ok h).2).2.2.2.1, ?_⟩
  rintro lease rfl
  exact ⟨fun _ _ _ h => hcurrent _ (renewAccountWriter_ok h).1, fun _ _ _ h => hcurrent _ (releaseAccountWriter_ok h).1⟩

/-- Two capabilities of an account that pass against one registry agree. -/
theorem mutationGuard_unique {l : RegistryLocation} {r : Registries} {a b : AccountWriterCapability} {now now' : ℤ}
    {u v : Unit} (hkey : a.accountScopeKey = b.accountScopeKey) (ha : mutationGuard l r a now = .ok u)
    (hb : mutationGuard l r b now' = .ok v) :
    a.ownerId = b.ownerId ∧ a.generation = b.generation ∧ a.databaseIdentity = b.databaseIdentity := by
  obtain ⟨-, hdatabaseA, hownerA, hgenerationA, -⟩ := assertCurrent_ok (mutationGuard_ok ha).2
  obtain ⟨-, hdatabaseB, hownerB, hgenerationB, -⟩ := assertCurrent_ok (mutationGuard_ok hb).2
  rw [hkey] at hdatabaseA hownerA hgenerationA
  refine ⟨?_, hgenerationA.symm.trans hgenerationB, ?_⟩
  · exact Option.some.inj (hownerA.symm.trans hownerB)
  · exact Option.some.inj (hdatabaseA.symm.trans hdatabaseB)

/-! ## Takeovers -/

/-- An owner of the form `host:pid` whose host is this machine and whose process the probe calls dead. -/
def DeadLocalOwner (p : WriterProcess) (ownerId : String) : Prop :=
  ∃ host rawPid pid, ownerId = host ++ ":" ++ rawPid ∧ p.casefold host = p.casefold p.hostname ∧
    pythonInt rawPid = some pid ∧ 0 < pid ∧ p.probe pid = .dead

/-- What an owner with a process looks like. -/
theorem ownerPid_some {p : WriterProcess} {ownerId : String} {pid : ℤ} (h : ownerPid p ownerId = some pid) :
    ∃ host rawPid, ownerId = host ++ ":" ++ rawPid ∧ p.casefold host = p.casefold p.hostname ∧
      pythonInt rawPid = some pid ∧ 0 < pid := by
  unfold ownerPid at h
  split at h
  · rename_i host rawPid hsplit
    split at h
    · nomatch h
    · rename_i hhost
      obtain ⟨hpid, hpos⟩ := Option.filter_eq_some_iff.mp h
      refine ⟨String.ofList host, String.ofList rawPid, ?_, not_not.mp hhost, hpid, of_decide_eq_true hpos⟩
      have hjoin : [':'].intercalate (ownerId.toList.splitOn ':') = ownerId.toList := List.intercalate_splitOn ':'
      rw [hsplit] at hjoin
      apply String.toList_injective
      rw [← hjoin]
      simp [List.intercalate]
  · nomatch h

/-- An owner that is classified as dead is a process of this machine. -/
theorem deadLocalOwner_of_dead {p : WriterProcess} {ownerId : String} (h : deadLocalSupervisorOwner p ownerId = .dead) :
    DeadLocalOwner p ownerId := by
  unfold deadLocalSupervisorOwner at h
  split at h
  · nomatch h
  · rename_i pid hpid
    obtain ⟨host, rawPid, howner, hhost, hraw, hpos⟩ := ownerPid_some hpid
    exact ⟨host, rawPid, pid, howner, hhost, hraw, hpos, h⟩

/-- A lease that runs at an instant ran at every earlier one. -/
theorem AccountRecord.unexpired_of_le {r : AccountRecord} {observed now : ℤ} (hle : observed ≤ now)
    (h : r.unexpired now = true) : r.unexpired observed = true := by
  unfold AccountRecord.unexpired at h ⊢
  cases hexpiry : r.leaseExpiresAt with
  | none =>
    rw [hexpiry] at h
    nomatch h
  | some expiry =>
    simp only [hexpiry, Option.any_some, decide_eq_true_eq] at h ⊢
    omega

/-! ## The fence -/

/-- An instant that a call read before it took the lock is not after the lock. -/
def ObservedBefore : ℤ × WriterCall → Prop
  | (now, .acquire _ _ _ _ _ observed) => observed ≤ now
  | (now, .renew _ _ observed) => observed ≤ now
  | _ => True

/-- The fence, at every point of every run of calls by any processes. -/
theorem accountWriter_fenced (l : RegistryLocation) (before after : List (ℤ × WriterCall))
    (hobserved : ∀ c ∈ before ++ after, ObservedBefore c) :
    -- a generation never decreases
    (∀ key, ((runCalls l {} before).record l.file key).currentGeneration ≤
      ((runCalls l {} (before ++ after)).record l.file key).currentGeneration) ∧
    -- one capability of an account passes
    (∀ now a b, a.accountScopeKey = b.accountScopeKey → mutationGuard l (runCalls l {} before) a now = .ok () →
      mutationGuard l (runCalls l {} before) b now = .ok () →
      a.ownerId = b.ownerId ∧ a.generation = b.generation ∧ a.databaseIdentity = b.databaseIdentity) ∧
    -- a smaller generation than one that was granted passes nowhere
    (∀ lease ∈ grants l {} before, ∀ capability : AccountWriterCapability,
      capability.accountScopeKey = lease.capability.accountScopeKey →
      capability.generation < lease.capability.generation →
      Rejected l (runCalls l {} before) capability ∧ Rejected l (runCalls l {} (before ++ after)) capability) ∧
    -- a lease that still runs goes to another owner only when its holder is a dead process of this machine
    (∀ now p key databaseId ownerId leaseDuration observed rest,
      after = (now, .acquire p key databaseId ownerId leaseDuration observed) :: rest →
      ∀ out, acquireAccountWriter l (runCalls l {} before) p key databaseId ownerId leaseDuration observed = .ok out →
      ((runCalls l {} before).record l.file key).unexpired now = true →
      ((runCalls l {} before).record l.file key).existingOwner ≠ p.owner ownerId →
      DeadLocalOwner p ((runCalls l {} before).record l.file key).existingOwner) := by
  have hrun : runCalls l {} (before ++ after) = runCalls l (runCalls l {} before) after := List.foldl_append
  have hgrows : (runCalls l {} before).Grows (runCalls l {} (before ++ after)) := by
    rw [hrun]
    exact runCalls_grows l _ after
  refine ⟨fun key => hgrows _ _, ?_, ?_, ?_⟩
  · intro now a b hkey ha hb
    exact mutationGuard_unique hkey ha hb
  · intro lease hlease capability hkey hlt
    have hgranted := grants_le hlease
    have hlater := hgrows l.file lease.capability.accountScopeKey
    rw [← hkey] at hgranted hlater
    constructor
    · refine rejected_of_generation_ne (runCalls_onlyAt l before) ?_
      omega
    · refine rejected_of_generation_ne (runCalls_onlyAt l (before ++ after)) ?_
      omega
  · rintro now p key databaseId ownerId leaseDuration observed rest rfl out hout hunexpired howner
    have hle : observed ≤ now := hobserved _ (List.mem_append_right before List.mem_cons_self)
    obtain ⟨-, -, -, htakeover⟩ := acquireAccountWriter_ok hout
    exact deadLocalOwner_of_dead (htakeover (AccountRecord.unexpired_of_le hle hunexpired) howner)

/-! ## A takeover -/

/-- One registry, at a path that resolves to itself. -/
def sampleLocation : RegistryLocation := { registryPath := "registry.json", resolve := id }

/-- A process of the machine `host`, for which no other process runs. -/
def sampleProcess (pid : ℕ) : WriterProcess :=
  { hostname := "host", casefold := String.toLower, pid, uuidHex := "00", probe := fun _ => .dead }

/-- The account is bound, and a supervisor takes its lease. -/
def sampleCalls : List (ℤ × WriterCall) :=
  [(0, .bind "BINANCE:TESTNET:1" "database-a" "operator" "first binding"),
   (2, .acquire (sampleProcess 12) "BINANCE:TESTNET:1" "database-a" (some "host:12") 360 1)]

/-- The capability of the supervisor. -/
def sampleCapability : AccountWriterCapability :=
  { accountScopeKey := "BINANCE:TESTNET:1", databaseIdentity := "database-a", ownerId := "host:12", generation := 1,
    registryIdentity := "registry.json" }

/-- The takeover of the running lease by another owner. -/
def sampleTakeover : ℤ × WriterCall :=
  (5, .acquire (sampleProcess 34) "BINANCE:TESTNET:1" "database-a" (some "host:34") 360 4)

/-- The supervisor is dead, its lease is taken over while it runs, and its capability is rejected. -/
theorem accountWriter_fenced_takeover :
    mutationGuard sampleLocation (runCalls sampleLocation {} sampleCalls) sampleCapability 3 = .ok () ∧
    DeadLocalOwner (sampleProcess 34) "host:12" ∧
    Rejected sampleLocation (runCalls sampleLocation {} (sampleCalls ++ [sampleTakeover])) sampleCapability := by
  have hobserved : ∀ c ∈ sampleCalls ++ [sampleTakeover], ObservedBefore c := by
    simp [sampleCalls, sampleTakeover, ObservedBefore]
  have hafter : ∀ c ∈ (sampleCalls ++ [sampleTakeover]) ++ [], ObservedBefore c := by
    rw [List.append_nil]
    exact hobserved
  refine ⟨by decide +kernel, ?_, ?_⟩
  · cases hout : acquireAccountWriter sampleLocation (runCalls sampleLocation {} sampleCalls) (sampleProcess 34)
        "BINANCE:TESTNET:1" "database-a" (some "host:34") 360 4 with
    | error e =>
      have hok : (acquireAccountWriter sampleLocation (runCalls sampleLocation {} sampleCalls) (sampleProcess 34)
        "BINANCE:TESTNET:1" "database-a" (some "host:34") 360 4).toBool = true := by decide +kernel
      rw [hout] at hok
      nomatch hok
    | ok out =>
      exact (accountWriter_fenced sampleLocation sampleCalls [sampleTakeover] hobserved).2.2.2 5 (sampleProcess 34)
        "BINANCE:TESTNET:1" "database-a" (some "host:34") 360 4 [] rfl out hout (by decide +kernel) (by decide +kernel)
  · have hgrant : (grants sampleLocation {} (sampleCalls ++ [sampleTakeover])).map (·.capability) =
        [sampleCapability, { sampleCapability with ownerId := "host:34", generation := 2 }] := by decide +kernel
    have hmem : { sampleCapability with ownerId := "host:34", generation := 2 } ∈
        (grants sampleLocation {} (sampleCalls ++ [sampleTakeover])).map (·.capability) := by
      rw [hgrant]
      simp
    obtain ⟨lease, hlease, hcapability⟩ := List.mem_map.mp hmem
    refine ((accountWriter_fenced sampleLocation (sampleCalls ++ [sampleTakeover]) [] hafter).2.2.1 lease hlease
      sampleCapability ?_ ?_).1
    · rw [hcapability]
    · rw [hcapability]
      decide

/-!
## Rebinding while flat

The callbacks of `rebind_account` are asked before the lock is taken, and under the lock only the expiry of the lease is
checked. A writer of the bound database can acquire, trade and release in between, so a binding may be written over an open
position. It is written over a flat account if no mutation in between opens anything.
-/

/-- The four parts of a call that nothing comes between are `rebind_account`. -/
theorem proceed_uninterrupted (l : RegistryLocation) (q : RebindRequest) (s : RebindState) (recoveryClear : Bool) (now : ℤ)
    (hstart : s.phase = .start) :
    let s' := (List.replicate 4 (RebindEvent.proceed recoveryClear now)).foldl (RebindState.step l q) s
    match rebindAccount l s.registries q.accountScopeKey q.databaseId q.operatorIdentity q.operatorReason
      (decide (s.account.positions = [])) (decide (s.account.pendingOrders = [])) recoveryClear now with
    | .error e => s'.registries = s.registries ∧ s'.phase = .raised e
    | .ok (_, registries) => s'.registries = registries ∧ s'.phase = .bound s.account := by
  obtain ⟨registries, account, phase⟩ := s
  obtain rfl : phase = .start := hstart
  simp only [List.replicate, List.foldl_cons, List.foldl_nil, RebindState.step, rebindAccount]
  cases hmetadata : operatorMetadata q.operatorIdentity q.operatorReason now with
  | error e => simp [RebindState.proceed, hmetadata, bind, Except.bind]
  | ok metadata =>
    by_cases hflat : account.positions = []
    · by_cases horders : account.pendingOrders = []
      · cases recoveryClear with
        | false =>
          simp [RebindState.proceed, hmetadata, hflat, horders, RebindPhase.answered, rebindPreflight, bind, Except.bind]
        | true =>
          simp only [RebindState.proceed, hmetadata, hflat, horders, RebindPhase.answered, rebindPreflight, bind, Except.bind,
            decide_true, Bool.not_true, Bool.or_self, if_true, Bool.false_eq_true, if_false]
          cases rebindLocked l registries q.accountScopeKey q.databaseId metadata now <;> simp
      · simp [RebindState.proceed, hmetadata, hflat, horders, RebindPhase.answered, rebindPreflight, bind, Except.bind]
    · simp [RebindState.proceed, hmetadata, hflat, RebindPhase.answered, rebindPreflight, bind, Except.bind]

/-! ## What the callbacks saw -/

/-- The exchange was seen to be flat and the binding is not written yet. -/
def RebindPhase.sawFlat : RebindPhase → Bool
  | .flatSeen | .ordersSeen | .cleared => true
  | _ => false

/-- The open orders were seen to be empty and the binding is not written yet. -/
def RebindPhase.sawNoOrders : RebindPhase → Bool
  | .ordersSeen | .cleared => true
  | _ => false

/-- No position and no open order. -/
def AuthoritativeAccountSnapshot.Idle (a : AuthoritativeAccountSnapshot) : Prop := a.positions = [] ∧ a.pendingOrders = []

/-- A mutation that passes the guard opens no position once the exchange was seen flat, and no order once the orders were seen
empty, until the binding is written. -/
def OpensNothingSeen (l : RegistryLocation) (s : RebindState) : RebindEvent → Prop
  | .mutate capability now effect => mutationGuard l s.registries capability now = .ok () →
      (s.phase.sawFlat = true → s.account.positions = [] → (effect s.account).positions = []) ∧
        (s.phase.sawNoOrders = true → s.account.pendingOrders = [] → (effect s.account).pendingOrders = [])
  | _ => True

/-- What was seen still stands, and a binding was written over an idle account. -/
structure RebindState.Seen (s : RebindState) : Prop where
  flat : s.phase.sawFlat = true → s.account.positions = []
  noOrders : s.phase.sawNoOrders = true → s.account.pendingOrders = []
  bound : ∀ account, s.phase = .bound account → account.Idle

/-- The next part of the call keeps what was seen. -/
theorem RebindState.Seen.proceed {l : RegistryLocation} {q : RebindRequest} {s : RebindState} (h : s.Seen)
    (recoveryClear : Bool) (now : ℤ) : (s.proceed l q recoveryClear now).Seen := by
  obtain ⟨registries, account, phase⟩ := s
  unfold RebindState.proceed
  cases phase with
  | start =>
    cases operatorMetadata q.operatorIdentity q.operatorReason now with
    | error e => exact ⟨nofun, nofun, nofun⟩
    | ok metadata =>
      by_cases hflat : account.positions = []
      · simp only [hflat, RebindPhase.answered, decide_true, if_true]
        exact ⟨fun _ => hflat, nofun, nofun⟩
      · simp only [hflat, RebindPhase.answered, decide_false, Bool.false_eq_true, if_false]
        exact ⟨nofun, nofun, nofun⟩
  | flatSeen =>
    by_cases horders : account.pendingOrders = []
    · simp only [horders, RebindPhase.answered, decide_true, if_true]
      exact ⟨fun _ => h.flat rfl, fun _ => horders, nofun⟩
    · simp only [horders, RebindPhase.answered, decide_false, Bool.false_eq_true, if_false]
      exact ⟨nofun, nofun, nofun⟩
  | ordersSeen =>
    cases recoveryClear with
    | false => exact ⟨nofun, nofun, nofun⟩
    | true => exact ⟨fun _ => h.flat rfl, fun _ => h.noOrders rfl, nofun⟩
  | cleared =>
    cases operatorMetadata q.operatorIdentity q.operatorReason now with
    | error e => exact ⟨nofun, nofun, nofun⟩
    | ok metadata =>
      dsimp only
      split
      · exact ⟨nofun, nofun, nofun⟩
      · refine ⟨nofun, nofun, ?_⟩
        intro account' heq
        obtain rfl : account = account' := by simpa using heq
        exact ⟨h.flat rfl, h.noOrders rfl⟩
  | bound account' => exact h
  | raised e => exact h

/-- An event that opens nothing that was seen closed keeps what was seen. -/
theorem RebindState.Seen.step {l : RegistryLocation} {q : RebindRequest} {s : RebindState} {event : RebindEvent} (h : s.Seen)
    (hopens : OpensNothingSeen l s event) : (s.step l q event).Seen := by
  cases event with
  | proceed recoveryClear now => exact h.proceed recoveryClear now
  | call c => exact ⟨h.flat, h.noOrders, h.bound⟩
  | mutate capability now effect =>
    simp only [RebindState.step]
    split
    · exact h
    · rename_i u hguard
      obtain ⟨hpositions, horders⟩ := hopens hguard
      exact ⟨fun hsaw => hpositions hsaw (h.flat hsaw), fun hsaw => horders hsaw (h.noOrders hsaw), h.bound⟩

/-- A binding is written over an idle account, in every run in which no guarded mutation opens what a callback saw closed. -/
theorem rebound_while_flat (l : RegistryLocation) (q : RebindRequest) (s : RebindState) (events : List RebindEvent)
    (account : AuthoritativeAccountSnapshot) (hstart : s.phase = .start)
    (hmeets : Loops.Meets (RebindState.step l q) (OpensNothingSeen l) s events)
    (hbound : (events.foldl (RebindState.step l q) s).phase = .bound account) : account.Idle := by
  have hinit : s.Seen := by
    refine ⟨?_, ?_, ?_⟩
    all_goals
      rw [hstart]
      nofun
  exact (Loops.run_keeps (fun _ _ hs hopens => hs.step hopens) hinit hmeets).bound account hbound

/-! ## A trade between the callbacks and the lock -/

/-- The registry of the sample: one account, bound to a database. -/
def boundLocation : RegistryLocation := { registryPath := "registry.json", resolve := id }

/-- The process of the bound database. -/
def boundWriter : WriterProcess :=
  { hostname := "host", casefold := String.toLower, pid := 12, uuidHex := "00", probe := fun _ => .alive }

/-- The account is bound to `database-a`, and the exchange holds nothing. -/
def boundState : RebindState :=
  { registries := runCalls boundLocation {} [(0, .bind "BINANCE:TESTNET:1" "database-a" "operator" "first binding")],
    account := {} }

/-- The account is to be bound to `database-b`. -/
def rebindRequest : RebindRequest :=
  { accountScopeKey := "BINANCE:TESTNET:1", databaseId := "database-b", operatorIdentity := "operator",
    operatorReason := "move" }

/-- The lease that the writer of `database-a` takes. -/
def boundLease : AccountWriterLease :=
  { capability := { accountScopeKey := "BINANCE:TESTNET:1", databaseIdentity := "database-a", ownerId := "host:12",
                    generation := 1, registryIdentity := "registry.json" }
    acquiredAt := 13, leaseExpiresAt := 373, hostIdentity := "host" }

/-- A trade of one coin. -/
def openOne (account : AuthoritativeAccountSnapshot) : AuthoritativeAccountSnapshot :=
  { account with positions := [{ symbol := "BTC/USDT", direction := .long, quantity := 1 }] }

/-- The three callbacks answer yes, the writer acquires, makes a mutation and releases, and the call takes the lock. -/
def interruptedRebind (effect : AuthoritativeAccountSnapshot → AuthoritativeAccountSnapshot) : List RebindEvent :=
  [.proceed true 10, .proceed true 11, .proceed true 12,
   .call (13, .acquire boundWriter "BINANCE:TESTNET:1" "database-a" (some "host:12") 360 13),
   .mutate boundLease.capability 14 effect, .call (15, .release boundLease 15), .proceed true 16]

/-- The binding is written over the position that the writer opened. -/
theorem rebound_while_flat_false : boundState.phase = .start ∧
    ∃ account, ((interruptedRebind openOne).foldl (RebindState.step boundLocation rebindRequest) boundState).phase =
      .bound account ∧ ¬account.Idle :=
  ⟨rfl, { positions := [{ symbol := "BTC/USDT", direction := .long, quantity := 1 }] }, by decide +kernel, nofun⟩

/-- A writer whose mutation opens nothing does not disturb the call. -/
theorem rebound_while_flat_undisturbed :
    ((interruptedRebind id).foldl (RebindState.step boundLocation rebindRequest) boundState).phase = .bound {} ∧
    AuthoritativeAccountSnapshot.Idle {} := by
  have hbound : ((interruptedRebind id).foldl (RebindState.step boundLocation rebindRequest) boundState).phase =
      .bound {} := by decide +kernel
  refine ⟨hbound, rebound_while_flat boundLocation rebindRequest boundState (interruptedRebind id) {} rfl ?_ hbound⟩
  refine ⟨trivial, trivial, trivial, trivial, ?_, trivial, trivial, trivial⟩
  exact fun _ => ⟨fun _ h => h, fun _ h => h⟩

end TradingPlatform
