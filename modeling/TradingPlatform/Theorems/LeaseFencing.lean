import Mathlib.Data.Int.ConditionallyCompleteOrder
import Mathlib.Order.ConditionallyCompleteLattice.Basic
import TradingPlatform.Lib.Loops
import TradingPlatform.Engine.SchedulerCoordination

/-!
# Lease fencing

A lease passes from owner to owner with a rising token, unless a takeover stalls between its read and its update for longer
than another owner holds the lease: the update of `acquire_or_renew_lease` does not ask for the token it counted from.
-/

namespace TradingPlatform

variable {w w' : LeaseWorld} {c : SchedulerCoordinator} {r : LeaseRequest}

/-- What holds of a lease over a run: a new owner has a greater token, no two owners are granted one token, one owner validates
with one token, an owner that lost the lease does not validate with its token again, and a release leaves the row of another
owner or token alone. -/
structure LeaseFencing (start : LeaseWorld) (ops : List LeaseOp) : Prop where
  ownerChange : Loops.Meets LeaseWorld.step (fun w op => ∀ lease lease', w.lease = some lease →
    (w.step op).lease = some lease' → lease.ownerId ≠ lease'.ownerId → lease.fencingToken < lease'.fencingToken) start ops
  granted : ∀ f ∈ (start.run ops).granted, ∀ g ∈ (start.run ops).granted, f.token = g.token → f.owner = g.owner
  oneValidates : ∀ owner owner' token token' now, validateFence (start.run ops).lease owner token now = true →
    validateFence (start.run ops).lease owner' token' now = true → owner = owner' ∧ token = token'
  lostStaysLost : ∀ earlier middle later, ops = earlier ++ middle ++ later → ∀ lease lease',
    (start.run earlier).lease = some lease → (start.run (earlier ++ middle)).lease = some lease' →
    lease'.ownerId ≠ lease.ownerId → ∀ now, validateFence (start.run ops).lease lease.ownerId lease.fencingToken now = false
  releaseKeeps : Loops.Meets LeaseWorld.step (fun w op => ∀ call c expectedToken now lease, op = .proceed call →
    w.calls call = some (.release c expectedToken now) → w.lease = some lease →
    lease.ownerId ≠ c.instanceId ∨ lease.fencingToken ≠ expectedToken → (w.step op).lease = some lease) start ops

/-- The condition on a statement: an update that takes or renews the lease finds the token its call counted from, or the fence
it is about to write. -/
def LeaseWorld.FindsItsToken (w : LeaseWorld) : LeaseOp → Prop
  | .proceed call => ∀ c r seen token lease, w.calls call = some (.update c r seen token) → w.lease = some lease →
    c.mayTake r lease = true → lease.fencingToken = seen.fencingToken ∨ lease.fence = ⟨c.instanceId, token⟩
  | _ => True

namespace LeaseFencingAux

/-! ## Fences of a row -/

/-- The row has a fence at least as great. -/
def Reached (w : LeaseWorld) (f : Fence String ℤ) : Prop := ∃ lease, w.lease = some lease ∧ f ≤ lease.fence

/-- The fence of the row only grows. -/
def Grows (w w' : LeaseWorld) : Prop := ∀ lease, w.lease = some lease → Reached w' lease.fence

theorem Reached.grows {f : Fence String ℤ} (h : Reached w f) (hgrows : Grows w w') : Reached w' f := by
  obtain ⟨lease, hlease, hle⟩ := h
  obtain ⟨lease', hlease', hle'⟩ := hgrows lease hlease
  exact ⟨lease', hlease', hle.trans hle'⟩

theorem Grows.of_eq (h : w'.lease = w.lease) : Grows w w' :=
  fun lease hlease => ⟨lease, h.trans hlease, le_refl _⟩

/-- A row that is changed in its other columns keeps its fence. -/
theorem Grows.of_map {f : SchedulerLease → SchedulerLease} (h : w'.lease = w.lease.map f)
    (hf : ∀ lease, (f lease).fence = lease.fence) : Grows w w' := by
  intro lease hlease
  exact ⟨f lease, by rw [h, hlease]; rfl, (hf lease).ge⟩

/-- The next token is at least the one it counts from, and greater for a new owner. -/
theorem fence_le_nextToken (c : SchedulerCoordinator) (r : LeaseRequest) (seen : SchedulerLease) (dead : Bool) :
    seen.fence ≤ ⟨c.instanceId, c.nextToken r seen dead⟩ := by
  unfold SchedulerCoordinator.nextToken
  dsimp only
  split
  · split
    · refine Fence.le_of_token_lt ?_
      simp only [SchedulerLease.fence]
      omega
    · rename_i htakeover
      refine Fence.le_of_owner_eq ?_ ?_
      · by_contra howner
        exact htakeover (by simp [show seen.ownerId ≠ c.instanceId from howner])
      · simp only [SchedulerLease.fence]
        omega
  · split
    · refine Fence.le_of_token_lt ?_
      simp only [SchedulerLease.fence]
      omega
    · rename_i htakeover
      refine Fence.le_of_owner_eq ?_ ?_
      · by_contra howner
        exact htakeover (by simp [show seen.ownerId ≠ c.instanceId from howner])
      · simp only [SchedulerLease.fence]
        omega

/-! ## What a statement keeps -/

/-- What a call that waits knows of the row. -/
def Waits (w : LeaseWorld) : LeaseCall → Prop
  | .expire _ _ seen => Reached w seen.fence
  | .update c _ seen token => Reached w seen.fence ∧ seen.fence ≤ ⟨c.instanceId, token⟩
  | _ => True

theorem Waits.grows {w w' : LeaseWorld} {pending : LeaseCall} (h : Waits w pending) (hgrows : Grows w w') :
    Waits w' pending := by
  cases pending with
  | insert c r => trivial
  | release c expectedToken now => trivial
  | expire c r seen => exact Reached.grows h hgrows
  | update c r seen token => exact ⟨h.1.grows hgrows, h.2⟩

/-- What a run keeps: the fences that were granted and read are behind the fence of the row. -/
structure Fenced (w : LeaseWorld) : Prop where
  waits : ∀ call pending, w.calls call = some pending → Waits w pending
  reached : ∀ f ∈ w.granted, Reached w f
  granted : ∀ f ∈ w.granted, ∀ g ∈ w.granted, f.token = g.token → f.owner = g.owner

/-- A call that ends does not wait. -/
theorem waits_none {w : LeaseWorld} (pending : LeaseCall) (h : none = some pending) : Waits w pending :=
  absurd h (Option.some_ne_none pending).symm

/-- A call that is replaced or ends leaves the others waiting. -/
theorem waits_update {w w' : LeaseWorld} (h : ∀ call pending, w.calls call = some pending → Waits w pending)
    (hgrows : Grows w w') {call : ℕ} {next : Option LeaseCall} (hnext : ∀ pending, next = some pending → Waits w' pending) :
    ∀ call' pending, Function.update w.calls call next call' = some pending → Waits w' pending := by
  intro call' pending hpending
  by_cases hcall : call' = call
  · rw [hcall, Function.update_self] at hpending
    exact hnext pending hpending
  · rw [Function.update_of_ne hcall] at hpending
    exact (h call' pending hpending).grows hgrows

/-- A grant at a fence that is not behind the row keeps the fences. -/
theorem Fenced.grant (h : Fenced w) {token : ℤ} {call : ℕ}
    (hlease : w'.lease = some (c.leaseRow r token)) (hcalls : w'.calls = Function.update w.calls call none)
    (hgranted : w'.granted = w.granted ++ [⟨c.instanceId, token⟩])
    (hle : ∀ lease, w.lease = some lease → lease.fence ≤ ⟨c.instanceId, token⟩) : Fenced w' ∧ Grows w w' := by
  have hgrows : Grows w w' := fun lease hold => ⟨_, hlease, hle lease hold⟩
  have hbehind : ∀ f ∈ w.granted, f ≤ ⟨c.instanceId, token⟩ := by
    intro f hf
    obtain ⟨lease, hold, hfence⟩ := h.reached f hf
    exact hfence.trans (hle lease hold)
  refine ⟨⟨?_, ?_, ?_⟩, hgrows⟩
  · rw [hcalls]
    exact waits_update h.waits hgrows waits_none
  · intro f hf
    rw [hgranted] at hf
    rcases List.mem_append.mp hf with hold | hnew
    · exact (h.reached f hold).grows hgrows
    · rw [List.mem_singleton.mp hnew]
      exact ⟨_, hlease, le_refl _⟩
  · intro f hf g hg htoken
    rw [hgranted] at hf hg
    rcases List.mem_append.mp hf with hfold | hfnew <;> rcases List.mem_append.mp hg with hgold | hgnew
    · exact h.granted f hfold g hgold htoken
    · rw [List.mem_singleton.mp hgnew] at htoken ⊢
      exact (hbehind f hfold).2 htoken
    · rw [List.mem_singleton.mp hfnew] at htoken ⊢
      exact ((hbehind g hgold).2 htoken.symm).symm
    · rw [List.mem_singleton.mp hfnew, List.mem_singleton.mp hgnew]

/-- A statement that grants nothing keeps the fences. -/
theorem Fenced.quiet (h : Fenced w) (hgrows : Grows w w') {call : ℕ} {next : Option LeaseCall}
    (hcalls : w'.calls = Function.update w.calls call next) (hnext : ∀ pending, next = some pending → Waits w' pending)
    (hgranted : w'.granted = w.granted) : Fenced w' ∧ Grows w w' := by
  refine ⟨⟨?_, ?_, ?_⟩, hgrows⟩
  · rw [hcalls]
    exact waits_update h.waits hgrows hnext
  · rw [hgranted]
    exact fun f hf => (h.reached f hf).grows hgrows
  · rw [hgranted]
    exact h.granted

/-- A call that ends without a grant keeps the fences. -/
theorem Fenced.ended {w w' : LeaseWorld} (h : Fenced w) (hgrows : Grows w w') {call : ℕ}
    (hcalls : w'.calls = Function.update w.calls call none) (hgranted : w'.granted = w.granted) :
    Fenced w' ∧ Grows w w' :=
  h.quiet hgrows hcalls waits_none hgranted

/-- The tokens the coordinators remember play no part. -/
theorem Fenced.congr (h : Fenced w) (hlease : w'.lease = w.lease) (hcalls : w'.calls = w.calls)
    (hgranted : w'.granted = w.granted) : Fenced w' ∧ Grows w w' := by
  have hgrows : Grows w w' := Grows.of_eq hlease
  refine ⟨⟨fun call pending hpending => ?_, ?_, ?_⟩, hgrows⟩
  · rw [hcalls] at hpending
    exact (h.waits call pending hpending).grows hgrows
  · rw [hgranted]
    exact fun f hf => (h.reached f hf).grows hgrows
  · rw [hgranted]
    exact h.granted

/-- What the read of `acquire_or_renew_lease` leaves waiting. -/
theorem waits_acquire {w : LeaseWorld} {processes : ℤ → Bool}
    {pending : LeaseCall} (h : c.acquireOrRenewLease r processes w.lease = some pending) : Waits w pending := by
  cases hlease : w.lease with
  | none =>
    rw [hlease] at h
    cases h
    trivial
  | some lease =>
    have hreached : Reached w lease.fence := ⟨lease, hlease, le_refl _⟩
    rw [hlease] at h
    simp only [SchedulerCoordinator.acquireOrRenewLease] at h
    split at h
    · nomatch h
    · split at h
      · cases h
        exact hreached
      · cases h
        exact ⟨hreached, fence_le_nextToken c r lease false⟩

/-- An update that finds its token takes the lease at a fence that is not behind the row. -/
theorem le_of_finds {w : LeaseWorld} {call : ℕ} {seen : SchedulerLease}
    {token : ℤ} (hwaits : Waits w (.update c r seen token)) (hcall : w.calls call = some (.update c r seen token))
    (hfinds : w.FindsItsToken (.proceed call)) {lease : SchedulerLease} (hlease : w.lease = some lease)
    (htake : c.mayTake r lease = true) : lease.fence ≤ ⟨c.instanceId, token⟩ := by
  obtain ⟨⟨lease', hlease', hseen⟩, hnext⟩ := hwaits
  obtain rfl : lease = lease' := Option.some.inj (hlease.symm.trans hlease')
  rcases hfinds c r seen token lease hcall hlease htake with htoken | howned
  · have hsame : seen.fence = lease.fence := Fence.ext (hseen.2 htoken.symm) htoken.symm
    exact hsame ▸ hnext
  · exact howned.le

theorem fenced_step {w : LeaseWorld} (h : Fenced w) {op : LeaseOp} (hfinds : w.FindsItsToken op) :
    Fenced (w.step op) ∧ Grows w (w.step op) := by
  cases op with
  | acquireOrRenewLease call c r processes =>
    exact h.quiet (Grows.of_eq rfl) rfl (fun pending hpending => (waits_acquire hpending).grows (Grows.of_eq rfl)) rfl
  | releaseLease call c fencingToken now =>
    refine h.quiet (Grows.of_eq rfl) rfl (fun pending hpending => ?_) rfl
    obtain ⟨expectedToken, -, rfl⟩ := Option.map_eq_some_iff.mp hpending
    trivial
  | fencingToken c =>
    simp only [LeaseWorld.step]
    split
    · exact ⟨h, Grows.of_eq rfl⟩
    · exact h.congr rfl rfl rfl
  | proceed call =>
    cases hcall : w.calls call with
    | none =>
      have hstep : w.step (.proceed call) = w := by simp [LeaseWorld.step, hcall]
      rw [hstep]
      exact ⟨h, Grows.of_eq rfl⟩
    | some pending =>
      have hstep : w.step (.proceed call) = pending.proceed w call := by simp [LeaseWorld.step, hcall]
      have hwaits := h.waits call pending hcall
      rw [hstep]
      cases pending with
      | insert c r =>
        simp only [LeaseCall.proceed]
        split
        · rename_i hnone
          exact h.grant rfl rfl rfl fun lease hlease => by simp [hlease] at hnone
        · exact h.ended (Grows.of_eq rfl) rfl rfl
      | expire c r seen =>
        have hgrows : Grows w (LeaseCall.proceed w call (.expire c r seen)) := by
          refine Grows.of_map (f := fun lease =>
            if c.expires seen lease then { lease with expiresAt := r.observedAt } else lease) rfl fun lease => ?_
          split <;> rfl
        refine h.quiet hgrows rfl (fun pending hpending => ?_) rfl
        cases hpending
        exact ⟨Reached.grows hwaits hgrows, fence_le_nextToken c r seen true⟩
      | release c expectedToken now =>
        have hgrows : Grows w (LeaseCall.proceed w call (.release c expectedToken now)) := by
          refine Grows.of_map (f := fun lease =>
            if c.holds expectedToken lease then { lease with expiresAt := now } else lease) rfl fun lease => ?_
          split <;> rfl
        exact h.ended hgrows rfl rfl
      | update c r seen token =>
        simp only [LeaseCall.proceed]
        split
        · rename_i htake
          refine h.grant rfl rfl rfl fun lease hlease => ?_
          rw [hlease] at htake
          exact le_of_finds hwaits hcall hfinds hlease htake
        · exact h.ended (Grows.of_eq rfl) rfl rfl

theorem fenced_start (lease : Option SchedulerLease) (fencingTokens : String → Option ℤ) :
    Fenced (LeaseWorld.start lease fencingTokens) := by
  have hfence : ∀ f ∈ (LeaseWorld.start lease fencingTokens).granted, lease.map SchedulerLease.fence = some f := by
    intro f hf
    simpa [LeaseWorld.start] using hf
  refine ⟨fun call pending hpending => ?_, fun f hf => ?_, fun f hf g hg _ => ?_⟩
  · exact waits_none pending hpending
  · obtain ⟨found, hfound, rfl⟩ := Option.map_eq_some_iff.mp (hfence f hf)
    exact ⟨found, hfound, le_refl _⟩
  · rw [Option.some.inj ((hfence f hf).symm.trans (hfence g hg))]

theorem fenced_run {w : LeaseWorld} (h : Fenced w) {ops : List LeaseOp}
    (hmeets : Loops.Meets LeaseWorld.step LeaseWorld.FindsItsToken w ops) : Fenced (w.run ops) := by
  have hkeep : ∀ w op, Fenced w → w.FindsItsToken op → Fenced (w.step op) := fun w op hw hfinds => (fenced_step hw hfinds).1
  exact Loops.run_keeps hkeep h hmeets

/-- A fence the row has reached stays reached. -/
theorem reached_run {w : LeaseWorld} (h : Fenced w) {ops : List LeaseOp}
    (hmeets : Loops.Meets LeaseWorld.step LeaseWorld.FindsItsToken w ops) {f : Fence String ℤ} (hf : Reached w f) :
    Reached (w.run ops) f := by
  have hkeep : ∀ w op, Fenced w ∧ Reached w f → w.FindsItsToken op → Fenced (w.step op) ∧ Reached (w.step op) f := by
    intro w op hw hfinds
    obtain ⟨hfenced, hgrows⟩ := fenced_step hw.1 hfinds
    exact ⟨hfenced, hw.2.grows hgrows⟩
  have hrun : Fenced (w.run ops) ∧ Reached (w.run ops) f := Loops.run_keeps hkeep ⟨h, hf⟩ hmeets
  exact hrun.2

theorem validateFence_iff {lease : Option SchedulerLease} {ownerId : String} {token now : ℤ} :
    validateFence lease ownerId token now = true ↔
      ∃ found, lease = some found ∧ found.fence = ⟨ownerId, token⟩ ∧ now < found.expiresAt := by
  cases lease with
  | none => simp [validateFence]
  | some found =>
    simp [validateFence, SchedulerLease.fence]

/-- A row that is released keeps its other columns, and it is the row of the caller. -/
theorem release_other {w : LeaseWorld} {call : ℕ} {c : SchedulerCoordinator} {expectedToken now : ℤ} {lease : SchedulerLease}
    (hcall : w.calls call = some (.release c expectedToken now)) (hlease : w.lease = some lease)
    (hother : lease.ownerId ≠ c.instanceId ∨ lease.fencingToken ≠ expectedToken) :
    (w.step (.proceed call)).lease = some lease := by
  have hholds : c.holds expectedToken lease = false := by
    rcases hother with h | h <;> simp [SchedulerCoordinator.holds, h]
  simp [LeaseWorld.step, hcall, LeaseCall.proceed, hlease, hholds]

end LeaseFencingAux

open LeaseFencingAux

/-- The lease is fenced in every run whose takeovers and renewals find the token they count from. -/
theorem leaseFencing_run (lease : Option SchedulerLease) (fencingTokens : String → Option ℤ) (ops : List LeaseOp)
    (hmeets : Loops.Meets LeaseWorld.step LeaseWorld.FindsItsToken (LeaseWorld.start lease fencingTokens) ops) :
    LeaseFencing (LeaseWorld.start lease fencingTokens) ops := by
  have hstart := fenced_start lease fencingTokens
  have hkeep : ∀ w op, Fenced w → w.FindsItsToken op → Fenced (w.step op) := fun w op hw hfinds => (fenced_step hw hfinds).1
  refine ⟨?_, (fenced_run hstart hmeets).granted, ?_, ?_, ?_⟩
  · refine Loops.Meets.imp hkeep (fun w op hw hfinds lease lease' hlease hlease' howner => ?_) hstart hmeets
    obtain ⟨lease'', hlease'', hle⟩ := (fenced_step hw hfinds).2 lease hlease
    obtain rfl : lease' = lease'' := Option.some.inj (hlease'.symm.trans hlease'')
    exact Fence.token_lt_of_owner_ne hle howner
  · intro owner owner' token token' now hvalid hvalid'
    obtain ⟨found, hfound, hfence, -⟩ := validateFence_iff.mp hvalid
    obtain ⟨found', hfound', hfence', -⟩ := validateFence_iff.mp hvalid'
    obtain rfl : found = found' := Option.some.inj (hfound.symm.trans hfound')
    exact Fence.mk.inj (hfence.symm.trans hfence')
  · rintro earlier middle later rfl lease₁ lease₂ hearlier hmiddle hlost now
    obtain ⟨hbefore, hafter⟩ := Loops.meets_append.mp hmeets
    obtain ⟨hfirst, hsecond⟩ := Loops.meets_append.mp hbefore
    have hfenced₁ := fenced_run hstart hfirst
    have hfenced₂ := fenced_run hstart hbefore
    have hgrown : lease₁.fence ≤ lease₂.fence := by
      have hreached := reached_run hfenced₁ hsecond ⟨lease₁, hearlier, le_refl _⟩
      rw [LeaseWorld.run, LeaseWorld.run, ← List.foldl_append] at hreached
      obtain ⟨found, hfound, hle⟩ := hreached
      obtain rfl : lease₂ = found := Option.some.inj (hmiddle.symm.trans hfound)
      exact hle
    have hend := reached_run hfenced₂ hafter ⟨lease₂, hmiddle, le_refl _⟩
    rw [LeaseWorld.run, LeaseWorld.run, ← List.foldl_append] at hend
    obtain ⟨last, hlast, hle⟩ := hend
    by_contra hvalid
    obtain ⟨found, hfound, hfence, -⟩ := validateFence_iff.mp (Bool.not_eq_false _ ▸ hvalid)
    obtain rfl : last = found := Option.some.inj (hlast.symm.trans hfound)
    exact Fence.ne_of_replaced hgrown hlost.symm hle hfence
  · refine Loops.Meets.imp hkeep (fun w op _ _ call c expectedToken now lease hop hcall hlease hother => ?_) hstart hmeets
    rw [hop]
    exact release_other hcall hlease hother

/-! ## Runs of two schedulers -/

/-- A lease whose owner let it expire. -/
def expiredLease : SchedulerLease :=
  { ownerId := "scheduler-0", hostname := "host-0", processId := 10, acquiredAt := -90, heartbeatAt := -90, expiresAt := 0 }

def schedulerA : SchedulerCoordinator := { instanceId := "scheduler-a", hostname := "host-a", processId := 11 }

def schedulerB : SchedulerCoordinator := { instanceId := "scheduler-b", hostname := "host-b", processId := 12 }

/-- An expired lease is taken over and released. -/
theorem takeover_fenced :
    LeaseFencing (LeaseWorld.start (some expiredLease) fun _ => none)
      [.acquireOrRenewLease 0 schedulerA { observedAt := 100, ttl := 90 } fun _ => true, .proceed 0,
        .releaseLease 1 schedulerA none 110, .proceed 1] := by
  refine leaseFencing_run _ _ _ ⟨trivial, ?_, trivial, ?_, trivial⟩
  · intro c r seen token lease hcall hlease _
    obtain ⟨-, -, rfl, -⟩ := LeaseCall.update.inj (Option.some.inj hcall)
    obtain rfl : expiredLease = lease := Option.some.inj hlease
    exact .inl rfl
  · intro c r seen token lease hcall
    exact LeaseCall.noConfusion (Option.some.inj hcall)

/-- A statement and the time it runs at. -/
structure LeaseStatement where
  time : ℤ
  op : LeaseOp

/-- What a statement knows of the time is not later than the statement. -/
def LeaseStatement.observed (s : LeaseStatement) : Prop :=
  match s.op with
  | .acquireOrRenewLease _ _ r _ => r.observedAt ≤ s.time
  | .releaseLease _ _ _ now => now ≤ s.time
  | _ => True

/-- The clock goes up from statement to statement. -/
def WellTimed (statements : List LeaseStatement) : Prop :=
  statements.Pairwise (fun s s' => s.time < s'.time) ∧ ∀ s ∈ statements, s.observed

/-- Two schedulers read an expired lease; the one that writes second finds the lease of the first expired in turn. -/
def stalledTakeover : List LeaseStatement :=
  [⟨100, .acquireOrRenewLease 0 schedulerB { observedAt := 0, ttl := 90 } fun _ => true⟩,
    ⟨101, .acquireOrRenewLease 1 schedulerA { observedAt := 100, ttl := 90 } fun _ => true⟩,
    ⟨102, .proceed 0⟩, ⟨103, .proceed 1⟩]

/-- Both are granted the same token. -/
theorem stalledTakeover_sharesToken :
    WellTimed stalledTakeover ∧
      ¬ LeaseFencing (LeaseWorld.start (some expiredLease) fun _ => none) (stalledTakeover.map LeaseStatement.op) := by
  refine ⟨⟨by simp [stalledTakeover], by simp [stalledTakeover, LeaseStatement.observed]⟩, fun h => ?_⟩
  have hgranted : ((LeaseWorld.start (some expiredLease) fun _ => none).run
      (stalledTakeover.map LeaseStatement.op)).granted =
        [⟨"scheduler-0", 1⟩, ⟨"scheduler-b", 2⟩, ⟨"scheduler-a", 2⟩] := by
    decide +kernel
  have howner := h.granted
  rw [hgranted] at howner
  have hsame := howner ⟨"scheduler-b", 2⟩ (by simp) ⟨"scheduler-a", 2⟩ (by simp) rfl
  exact absurd hsame (by decide)

end TradingPlatform
