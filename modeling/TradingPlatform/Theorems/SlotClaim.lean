import TradingPlatform.Lib.Loops
import TradingPlatform.Engine.SchedulerCoordination

/-!
# One live claimant a slot

The constraint of the slot lets one coordinator insert the row. The row of a dead claimant is written by its key, whoever has
it by then: two survivors that read the same dead claim both claim the slot, and each may finish the cycle of the other.
-/

namespace TradingPlatform

/-- No two claimants of the slot are alive. -/
def CycleWorld.OneAlive (w : CycleWorld) : Prop :=
  ∀ c ∈ w.claimants, ∀ c' ∈ w.claimants, w.alive c.instanceId = true → w.alive c'.instanceId = true →
    c.instanceId = c'.instanceId

/-- What holds of a slot over a run: after every statement at most one claimant is alive, and a claimant that has been replaced
leaves the row of the other alone when it finishes. -/
structure OneLiveClaimant (start : CycleWorld) (ops : List CycleOp) : Prop where
  alive : Loops.Meets CycleWorld.step (fun w op => (w.step op).OneAlive) start ops
  finishKeeps : Loops.Meets CycleWorld.step (fun w op => ∀ call others c f loaded row, op = .proceed call others →
    w.calls call = some (c, .finish f loaded) → c ∈ w.claimants → w.row = some row →
    row.schedulerInstanceId ≠ c.instanceId → (w.step op).row = some row) start ops

/-- The condition on a statement: a coordinator that reclaims the slot finds it claimed by a dead coordinator, or by itself. -/
def CycleWorld.ReclaimsFromDead (w : CycleWorld) : CycleOp → Prop
  | .proceed call _ => ∀ c r existing row, w.calls call = some (c, .reclaim r existing) → w.alive c.instanceId = true →
    w.row = some row → row.schedulerCycleId = existing.schedulerCycleId → w.alive row.schedulerInstanceId = true →
    row.schedulerInstanceId = c.instanceId
  | _ => True

namespace SlotClaimAux

/-! ## What a statement does -/

/-- A write leaves the claim to its coordinator. -/
theorem commit_reclaimed {c : SchedulerCoordinator} {r : CycleRequest} {existing row : SchedulerCycle}
    (hid : row.schedulerCycleId = existing.schedulerCycleId) (hother : existing.schedulerInstanceId ≠ c.instanceId) :
    (existing.commit (c.reclaimed r existing) row).schedulerInstanceId = c.instanceId := by
  simp only [SchedulerCycle.commit, hid, ne_eq, not_true_eq_false, if_false]
  exact Table.changedColumn_of_ne hother.symm

/-- A finish leaves the claim where it is. -/
theorem commit_finished (f : CycleFinish) (loaded row : SchedulerCycle) :
    (loaded.commit (f.finished loaded) row).schedulerInstanceId = row.schedulerInstanceId := by
  unfold SchedulerCycle.commit
  split
  · rfl
  · simp [Table.changedColumn, CycleFinish.finished]

/-- The claim that a coordinator reads as dead is another's. -/
theorem deadLocalClaim_other {c : SchedulerCoordinator} {processes : ℤ → Bool} {existing : SchedulerCycle}
    (h : c.deadLocalClaim processes existing = true) : existing.schedulerInstanceId ≠ c.instanceId := by
  simp only [SchedulerCoordinator.deadLocalClaim, Bool.and_eq_true, decide_eq_true_eq] at h
  exact h.1.1.2

/-- A call that waits to reclaim the slot has read the claim of another. -/
def Waits (w : CycleWorld) : Prop :=
  ∀ call c r existing, w.calls call = some (c, .reclaim r existing) → existing.schedulerInstanceId ≠ c.instanceId

/-- What a call leaves waiting, the others wait as before. -/
theorem Waits.update {w w' : CycleWorld} (h : Waits w) {call : ℕ} {next : Option (SchedulerCoordinator × CycleCall)}
    (hcalls : w'.calls = Function.update w.calls call next)
    (hnext : ∀ c r existing, next = some (c, .reclaim r existing) → existing.schedulerInstanceId ≠ c.instanceId) :
    Waits w' := by
  intro call' c r existing hcall
  rw [hcalls] at hcall
  by_cases heq : call' = call
  · rw [heq, Function.update_self] at hcall
    exact hnext c r existing hcall
  · rw [Function.update_of_ne heq] at hcall
    exact h call' c r existing hcall

/-- What every statement keeps: the row names a claimant, and there is a row if there is one. -/
structure Claimed (w : CycleWorld) : Prop where
  waits : Waits w
  row : ∀ row, w.row = some row → ∃ c ∈ w.claimants, c.instanceId = row.schedulerInstanceId
  claimant : ∀ c ∈ w.claimants, ∃ row, w.row = some row

/-- The claimant that is alive is the one the row names. -/
def Sole (w : CycleWorld) : Prop :=
  ∀ c ∈ w.claimants, w.alive c.instanceId = true → ∃ row, w.row = some row ∧ row.schedulerInstanceId = c.instanceId

theorem Sole.oneAlive {w : CycleWorld} (h : Sole w) : w.OneAlive := by
  intro c hc c' hc' halive halive'
  obtain ⟨row, hrow, hname⟩ := h c hc halive
  obtain ⟨row', hrow', hname'⟩ := h c' hc' halive'
  obtain rfl : row = row' := Option.some.inj (hrow.symm.trans hrow')
  exact hname.symm.trans hname'

/-- What a statement leaves: the claim where it was, or a new claim of a coordinator that is alive; that one inserts the row or
writes over another's. -/
theorem step_cases {w : CycleWorld} (h : Claimed w) (op : CycleOp) :
    (w.step op).claimants = w.claimants ∧ (∀ i, (w.step op).alive i = true → w.alive i = true) ∧
      (w.step op).row.map SchedulerCycle.schedulerInstanceId = w.row.map SchedulerCycle.schedulerInstanceId ∨
    ∃ c, w.alive c.instanceId = true ∧ (w.step op).claimants = w.claimants ++ [c] ∧ (w.step op).alive = w.alive ∧
      (w.step op).row.map SchedulerCycle.schedulerInstanceId = some c.instanceId ∧
      ∀ row, w.row = some row → ∃ call others r existing, op = .proceed call others ∧
        w.calls call = some (c, .reclaim r existing) ∧ row.schedulerCycleId = existing.schedulerCycleId := by
  cases op with
  | exit instanceId =>
    refine .inl ⟨rfl, fun i hi => ?_, rfl⟩
    by_cases hi' : i = instanceId
    · simp [CycleWorld.step, hi'] at hi
    · simpa [CycleWorld.step, Function.update_of_ne hi'] using hi
  | finishCycle call c f =>
    left
    simp only [CycleWorld.step]
    split <;> exact ⟨rfl, fun _ hi => hi, rfl⟩
  | claimCycle call c r schedulerCycleId =>
    simp only [CycleWorld.step]
    split
    · rename_i halive
      split
      · rename_i hnone
        exact .inr ⟨c, halive, rfl, rfl, rfl, fun row hrow => absurd (hnone.symm.trans hrow) (Option.some_ne_none row).symm⟩
      · exact .inl ⟨rfl, fun _ hi => hi, rfl⟩
    · exact .inl ⟨rfl, fun _ hi => hi, rfl⟩
  | proceed call others =>
    cases hcall : w.calls call with
    | none =>
      have hstep : w.step (.proceed call others) = w := by simp [CycleWorld.step, hcall]
      rw [hstep]
      exact .inl ⟨rfl, fun _ hi => hi, rfl⟩
    | some waiting =>
      obtain ⟨c, pending⟩ := waiting
      by_cases halive : w.alive c.instanceId = true
      · have hstep : w.step (.proceed call others) = pending.proceed w call c others := by
          simp [CycleWorld.step, hcall, halive]
        rw [hstep]
        cases pending with
        | conflict r => exact .inl ⟨rfl, fun _ hi => hi, rfl⟩
        | finish f loaded =>
          refine .inl ⟨rfl, fun _ hi => hi, ?_⟩
          simp only [CycleCall.proceed, Option.map_map]
          exact Option.map_congr fun row _ => commit_finished f loaded row
        | reclaim r existing =>
          simp only [CycleCall.proceed]
          split
          · rename_i hany
            obtain ⟨row, hrow, hid⟩ := (Option.any_eq_true _ _).mp hany
            have hid' : row.schedulerCycleId = existing.schedulerCycleId := of_decide_eq_true hid
            refine .inr ⟨c, halive, rfl, rfl, ?_, fun row' hrow' => ?_⟩
            · rw [hrow, Option.map_some, Option.map_some, commit_reclaimed hid' (h.waits call c r existing hcall)]
            · obtain rfl : row = row' := Option.some.inj (hrow.symm.trans hrow')
              exact ⟨call, others, r, existing, rfl, hcall, hid'⟩
          · exact .inl ⟨rfl, fun _ hi => hi, rfl⟩
      · have hstep : w.step (.proceed call others) = w := by simp [CycleWorld.step, hcall, halive]
        rw [hstep]
        exact .inl ⟨rfl, fun _ hi => hi, rfl⟩

theorem waits_step {w : CycleWorld} (h : Waits w) (op : CycleOp) : Waits (w.step op) := by
  cases op with
  | exit instanceId => exact h
  | finishCycle call c f =>
    simp only [CycleWorld.step]
    split
    · refine h.update rfl fun c' r existing hnext => ?_
      obtain ⟨row, -, hrow⟩ := Option.map_eq_some_iff.mp hnext
      exact CycleCall.noConfusion (Prod.mk.inj hrow).2
    · exact h
  | claimCycle call c r schedulerCycleId =>
    simp only [CycleWorld.step]
    split
    · split
      · exact h
      · refine h.update rfl fun c' r' existing hnext => ?_
        exact CycleCall.noConfusion (Prod.mk.inj (Option.some.inj hnext)).2
    · exact h
  | proceed call others =>
    simp only [CycleWorld.step]
    split
    · exact h
    · rename_i c pending hcall
      split
      · cases pending with
        | conflict r =>
          refine h.update rfl fun c' r' existing hnext => ?_
          obtain ⟨found, hfound, heq⟩ := Option.map_eq_some_iff.mp hnext
          obtain ⟨rfl, hpending⟩ := Prod.mk.inj heq
          obtain ⟨-, rfl⟩ := CycleCall.reclaim.inj hpending
          exact deadLocalClaim_other (Option.filter_eq_some_iff.mp hfound).2
        | finish f loaded => exact h.update rfl fun c' r' existing hnext => absurd hnext (Option.some_ne_none _).symm
        | reclaim r existing =>
          simp only [CycleCall.proceed]
          split <;> exact h.update rfl fun c' r' existing' hnext => absurd hnext (Option.some_ne_none _).symm
      · exact h

theorem Claimed.step {w : CycleWorld} (h : Claimed w) (op : CycleOp) : Claimed (w.step op) := by
  rcases step_cases h op with ⟨hclaimants, -, hrow⟩ | ⟨c, -, hclaimants, -, hrow, -⟩
  · refine ⟨waits_step h.waits op, fun row' hrow' => ?_, fun c hc => ?_⟩
    · rw [hrow', Option.map_some] at hrow
      obtain ⟨row, hbefore, hname⟩ := Option.map_eq_some_iff.mp hrow.symm
      obtain ⟨c, hc, hclaims⟩ := h.row row hbefore
      exact ⟨c, hclaimants ▸ hc, hclaims.trans hname⟩
    · obtain ⟨row, hbefore⟩ := h.claimant c (hclaimants ▸ hc)
      rw [hbefore, Option.map_some] at hrow
      obtain ⟨row', hrow', -⟩ := Option.map_eq_some_iff.mp hrow
      exact ⟨row', hrow'⟩
  · obtain ⟨row, hafter, hname⟩ := Option.map_eq_some_iff.mp hrow
    refine ⟨waits_step h.waits op, fun row' hrow' => ⟨c, by simp [hclaimants], ?_⟩, fun _ _ => ⟨row, hafter⟩⟩
    obtain rfl : row = row' := Option.some.inj (hafter.symm.trans hrow')
    exact hname.symm

/-- A claimant that reclaims the slot from the dead, or from itself, is the only one alive. -/
theorem Sole.step {w : CycleWorld} (hclaimed : Claimed w) (h : Sole w) {op : CycleOp} (hdead : w.ReclaimsFromDead op) :
    Sole (w.step op) := by
  rcases step_cases hclaimed op with ⟨hclaimants, halive, hrow⟩ | ⟨c, hc, hclaimants, halive, hrow, hread⟩
  · intro c hc hlives
    obtain ⟨row, hbefore, hname⟩ := h c (hclaimants ▸ hc) (halive _ hlives)
    rw [hbefore, Option.map_some, hname] at hrow
    exact Option.map_eq_some_iff.mp hrow
  · intro c' hc' hlives
    rw [hclaimants] at hc'
    rw [halive] at hlives
    rcases List.mem_append.mp hc' with hold | hnew
    · obtain ⟨row, hbefore, hname⟩ := h c' hold hlives
      obtain ⟨call, others, r, existing, rfl, hcall, hid⟩ := hread row hbefore
      have hself := hdead c r existing row hcall hc hbefore hid (hname ▸ hlives)
      rw [hname.symm.trans hself]
      exact Option.map_eq_some_iff.mp hrow
    · rw [List.mem_singleton.mp hnew]
      exact Option.map_eq_some_iff.mp hrow

/-- A coordinator that reclaims the slot of another that is alive leaves two claimants alive. -/
theorem reclaimsFromDead_of_oneAlive {w : CycleWorld} (h : Claimed w) {op : CycleOp} (hone : (w.step op).OneAlive) :
    w.ReclaimsFromDead op := by
  cases op with
  | proceed call others =>
    intro c r existing row hcall halive hrow hid hlives
    have hstep : w.step (.proceed call others) = CycleCall.proceed w call c others (.reclaim r existing) := by
      simp [CycleWorld.step, hcall, halive]
    have hclaims : (w.step (.proceed call others)).claimants = w.claimants ++ [c] ∧
        (w.step (.proceed call others)).alive = w.alive := by
      rw [hstep]
      simp [CycleCall.proceed, hrow, hid]
    obtain ⟨c', hc', hname⟩ := h.row row hrow
    rw [← hname]
    refine hone c' ?_ c ?_ ?_ ?_
    · simp [hclaims.1, hc']
    · simp [hclaims.1]
    · rw [hclaims.2, hname]
      exact hlives
    · rw [hclaims.2]
      exact halive
  | _ => trivial

theorem claimed_start (row : Option SchedulerCycle) (alive : String → Bool) : Claimed (CycleWorld.start row alive) := by
  have hmem : ∀ c, c ∈ (CycleWorld.start row alive).claimants ↔ ∃ found, row = some found ∧ found.claimant = c := by
    intro c
    rw [CycleWorld.start, Option.mem_toList, Option.map_eq_some_iff]
  refine ⟨fun _ c r existing hcall => absurd hcall (Option.some_ne_none _).symm, fun found hfound => ?_, fun c hc => ?_⟩
  · exact ⟨found.claimant, (hmem _).mpr ⟨found, hfound, rfl⟩, rfl⟩
  · obtain ⟨found, hfound, -⟩ := (hmem c).mp hc
    exact ⟨found, hfound⟩

theorem sole_start (row : Option SchedulerCycle) (alive : String → Bool) : Sole (CycleWorld.start row alive) := by
  intro c hc _
  rw [CycleWorld.start, Option.mem_toList, Option.map_eq_some_iff] at hc
  obtain ⟨found, hfound, rfl⟩ := hc
  exact ⟨found, hfound, rfl⟩

/-- Where the claimant that is alive is the one the row names, a replaced claimant finishes nothing. -/
theorem finish_replaced {w : CycleWorld} (h : Sole w) {call : ℕ} {others : ℤ → Bool} {c : SchedulerCoordinator}
    {f : CycleFinish} {loaded row : SchedulerCycle} (hcall : w.calls call = some (c, .finish f loaded))
    (hc : c ∈ w.claimants) (hrow : w.row = some row) (hother : row.schedulerInstanceId ≠ c.instanceId) :
    (w.step (.proceed call others)).row = some row := by
  have hdead : w.alive c.instanceId = false := by
    by_contra hlives
    obtain ⟨row', hrow', hname⟩ := h c hc (by simpa using hlives)
    obtain rfl : row = row' := Option.some.inj (hrow.symm.trans hrow')
    exact hother hname
  simp [CycleWorld.step, hcall, hdead, hrow]

end SlotClaimAux

open SlotClaimAux

/-- At most one claimant of a slot is alive over a run, and none finishes the cycle of another, exactly if every coordinator
that reclaims the slot finds it claimed by a dead coordinator, or by itself. -/
theorem oneLiveClaimant_iff (row : Option SchedulerCycle) (alive : String → Bool) (ops : List CycleOp) :
    OneLiveClaimant (CycleWorld.start row alive) ops ↔
      Loops.Meets CycleWorld.step CycleWorld.ReclaimsFromDead (CycleWorld.start row alive) ops := by
  have hstart : Claimed (CycleWorld.start row alive) ∧ Sole (CycleWorld.start row alive) :=
    ⟨claimed_start row alive, sole_start row alive⟩
  have hkeep : ∀ w op, Claimed w ∧ Sole w → w.ReclaimsFromDead op → Claimed (w.step op) ∧ Sole (w.step op) :=
    fun w op hw hdead => ⟨hw.1.step op, Sole.step hw.1 hw.2 hdead⟩
  constructor
  · intro h
    exact Loops.Meets.imp (fun w op hw hone => hkeep w op hw (reclaimsFromDead_of_oneAlive hw.1 hone))
      (fun w op hw hone => reclaimsFromDead_of_oneAlive hw.1 hone) hstart h.alive
  · intro hmeets
    refine ⟨Loops.Meets.imp hkeep (fun w op hw hdead => (hkeep w op hw hdead).2.oneAlive) hstart hmeets,
      Loops.Meets.imp hkeep (fun w op hw _ => ?_) hstart hmeets⟩
    intro call others c f loaded row hop hcall hc hrow hother
    rw [hop]
    exact finish_replaced hw.2 hcall hc hrow hother

/-- The row of a scheduler that was killed. -/
def killedClaim : SchedulerCycle :=
  { schedulerCycleId := "cycle-1", schedulerInstanceId := "killed", cycleSource := "runtime_scheduler", runMode := "paper",
    deploymentSha := "", hostname := "host", processId := 10, startedAt := 0 }

def survivorA : SchedulerCoordinator := { instanceId := "survivor-a", hostname := "host", processId := 11 }

def survivorB : SchedulerCoordinator := { instanceId := "survivor-b", hostname := "host", processId := 12 }

/-- Two survivors find the slot taken, read its row and write it; then the first finishes. -/
def twoSurvivors : List CycleOp :=
  [.claimCycle 0 survivorA { startedAt := 60 } "a", .claimCycle 1 survivorB { startedAt := 60 } "b",
    .proceed 0 fun _ => false, .proceed 1 fun _ => false, .proceed 0 fun _ => false, .proceed 1 fun _ => false,
    .finishCycle 0 survivorA { schedulerCycleId := "cycle-1", status := "completed", completedAt := 70 },
    .proceed 0 fun _ => false]

/-- Both claim the slot, and the first ends the cycle of the second. -/
theorem twoSurvivors_claim :
    let w := (CycleWorld.start (some killedClaim) fun i => decide (i ≠ "killed")).run twoSurvivors
    w.claimants.map SchedulerCoordinator.instanceId = ["killed", "survivor-a", "survivor-b"] ∧
      w.row.map (fun row => (row.schedulerInstanceId, row.status)) = some ("survivor-b", "completed") ∧
      ¬ OneLiveClaimant (CycleWorld.start (some killedClaim) fun i => decide (i ≠ "killed")) twoSurvivors := by
  refine ⟨by decide +kernel, by decide +kernel, fun h => ?_⟩
  obtain ⟨-, -, -, -, -, hone, -⟩ := h.alive
  have hsame := hone survivorA (by decide +kernel) survivorB (by decide +kernel) (by decide +kernel) (by decide +kernel)
  exact absurd hsame (by decide)

end TradingPlatform
