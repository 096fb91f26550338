import TradingPlatform.Lib.Loops
import TradingPlatform.Store.RuntimeControl

/-!
# No lost runtime control

Two writers of the entry switch that read the same version both write it, and the later one wins: the flush of
`set_runtime_control` finds its row by the key alone. Where every flush finds the version its call read, no update is lost.
-/

namespace TradingPlatform

variable (scope : String)

variable {u : RuntimeControlUpdate}

/-- A call that succeeds raises the stored version. -/
def ControlWorld.VersionRises (w : ControlWorld) (op : ControlOp) : Prop :=
  (w.step scope op).succeeded ≠ w.succeeded → ∀ control, w.stored = some control →
    ∃ control', (w.step scope op).stored = some control' ∧ control.version < control'.version

/-- No update of the runtime control is lost in a run: each success raises the stored version, an expected version succeeds
once, and a call that succeeds after a pause expects a version the pause has already replaced by a later one. -/
structure NoLostUpdate (start : ControlWorld) (ops : List ControlOp) : Prop where
  rises : Loops.Meets (ControlWorld.step scope) (ControlWorld.VersionRises scope) start ops
  once : ((start.run scope ops).succeeded.map ControlSuccess.expectedVersion).Nodup
  pauseKept : ∀ before pause after, (start.run scope ops).succeeded = before ++ pause :: after →
    pause.entryEnabled = false → ∀ later ∈ after, pause.expectedVersion < later.expectedVersion

/-- The condition on a statement: a row that is written by its key has the version the call read. -/
def ControlWorld.FindsWhatItRead (w : ControlWorld) : ControlOp → Prop
  | .flush call => ∀ u loaded control, w.calls call = some u → u.loaded = some loaded → w.stored = some control →
    control.version = loaded.version
  | _ => True

namespace RuntimeControlAux

variable {scope}

/-! ## What a statement does -/

/-- A call that has read the row expects the version it read. -/
theorem read_ok {request : SetRuntimeControl} {stored : Option RuntimeControl} {u : RuntimeControlUpdate}
    (h : request.read scope stored = .ok u) :
    u.loaded = stored ∧ u.expectedVersion scope = (getRuntimeControl scope stored).version := by
  unfold SetRuntimeControl.read at h
  dsimp only at h
  split at h
  · rename_i hnone
    cases h
    exact ⟨rfl, by simp [RuntimeControlUpdate.expectedVersion, hnone]⟩
  · rename_i expectedVersion hsome
    split at h
    · nomatch h
    · rename_i heq
      cases h
      refine ⟨rfl, ?_⟩
      simp only [RuntimeControlUpdate.expectedVersion, hsome, Option.getD_some]
      exact (not_not.mp heq).symm

/-- A flush leaves the version after the one the call read. -/
theorem flush_version {stored : Option RuntimeControl} {control : RuntimeControl}
    (h : u.flush scope stored = some control) : control.version = (getRuntimeControl scope u.loaded).version + 1 := by
  unfold RuntimeControlUpdate.flush at h
  split at h
  · split at h
    · cases h
      rfl
    · nomatch h
  · split at h
    · nomatch h
    · rename_i loaded hloaded
      cases h
      have hassigned : (u.assigned scope).version = loaded.version + 1 := by
        simp [RuntimeControlUpdate.assigned, hloaded, getRuntimeControl]
      have hne : (u.assigned scope).version ≠ loaded.version := by omega
      rw [hloaded]
      exact (Table.changedColumn_of_ne hne).trans hassigned

/-- A flush returns only if the row is there exactly if it was when the call read it. -/
theorem flush_stored {stored : Option RuntimeControl} {control : RuntimeControl}
    (h : u.flush scope stored = some control) : u.loaded.isSome = stored.isSome := by
  unfold RuntimeControlUpdate.flush at h
  split at h <;> split at h
  · rename_i hloaded
    rw [hloaded]
  · nomatch h
  · nomatch h
  · rename_i hloaded
    rw [hloaded]
    rfl

/-- A conditional write that finds its row leaves the version after the one it expects. -/
theorem compareAndSet_some {request : CompareAndSetRuntimeControl} {stored : Option RuntimeControl} {control : RuntimeControl}
    (h : compareAndSetRuntimeControl request stored = some control) :
    ∃ found, stored = some found ∧ found.version = request.expectedVersion ∧
      control.version = request.expectedVersion + 1 := by
  obtain ⟨found, hfound, rfl⟩ := Option.map_eq_some_iff.mp h
  obtain ⟨hstored, hfinds⟩ := Option.filter_eq_some_iff.mp hfound
  have hversion : found.version = request.expectedVersion := by
    simp only [CompareAndSetRuntimeControl.finds, Bool.and_eq_true, decide_eq_true_eq] at hfinds
    exact hfinds.1.1
  exact ⟨found, hstored, hversion, by rw [hversion]⟩

/-! ## What a statement leaves -/

/-- A call that has read the row expects the version it read, and the row has not gone back behind it. -/
structure Waiting (scope : String) (w : ControlWorld) (u : RuntimeControlUpdate) : Prop where
  expects : u.expectedVersion scope = (getRuntimeControl scope u.loaded).version
  behind : ∀ loaded, u.loaded = some loaded → ∃ control, w.stored = some control ∧ loaded.version ≤ control.version

/-- The versions of the row only go up. -/
def StoredGrows (w w' : ControlWorld) : Prop :=
  ∀ control, w.stored = some control → ∃ control', w'.stored = some control' ∧ control.version ≤ control'.version

theorem Waiting.grows {w w' : ControlWorld} (h : Waiting scope w u) (hgrows : StoredGrows w w') : Waiting scope w' u := by
  refine ⟨h.expects, fun loaded hloaded => ?_⟩
  obtain ⟨control, hcontrol, hle⟩ := h.behind loaded hloaded
  obtain ⟨control', hcontrol', hle'⟩ := hgrows control hcontrol
  exact ⟨control', hcontrol', hle.trans hle'⟩

/-- What a statement leaves of the calls: one that waits did so before, or has just read the row. -/
theorem calls_step (w : ControlWorld) (op : ControlOp) {call : ℕ} {u : RuntimeControlUpdate}
    (h : (w.step scope op).calls call = some u) :
    w.calls call = some u ∨ ((w.step scope op).stored = w.stored ∧ Waiting scope w u) := by
  cases op with
  | get => exact .inl h
  | ensure entryEnabled reason updatedBy => exact .inl h
  | compareAndSet request =>
    refine .inl ?_
    simp only [ControlWorld.step] at h
    split at h <;> exact h
  | read target request =>
    simp only [ControlWorld.step] at h ⊢
    split at h
    · exact .inl h
    · rename_i u' hread
      obtain ⟨hloaded, hexpects⟩ := read_ok hread
      by_cases hcall : call = target
      · obtain rfl : u' = u := by simpa [hcall] using h
        refine .inr ⟨rfl, by rw [hloaded]; exact hexpects, fun loaded hsome => ?_⟩
        exact ⟨loaded, by rw [← hloaded, hsome], le_refl _⟩
      · exact .inl (by simpa [Function.update_of_ne hcall] using h)
  | flush target =>
    refine .inl ?_
    have hcalls : Function.update w.calls target none call = some u → w.calls call = some u := by
      intro hupdated
      by_cases hcall : call = target
      · simp [hcall] at hupdated
      · simpa [Function.update_of_ne hcall] using hupdated
    simp only [ControlWorld.step] at h
    split at h
    · exact h
    · split at h <;> exact hcalls h

/-- A statement adds no success and leaves the version alone, or it ends a call: the row has the version after the one the
call expects. -/
theorem succeeded_step {w : ControlWorld} (hwaiting : ∀ call u, w.calls call = some u → Waiting scope w u)
    (op : ControlOp) :
    (w.step scope op).succeeded = w.succeeded ∧ StoredGrows w (w.step scope op) ∨
    ∃ s control, (w.step scope op).succeeded = w.succeeded ++ [s] ∧ (w.step scope op).stored = some control ∧
      control.version = s.expectedVersion + 1 ∧ (∀ found, w.stored = some found → s.expectedVersion ≤ found.version) ∧
      (w.FindsWhatItRead op → ∀ found, w.stored = some found → found.version = s.expectedVersion) := by
  have hsame : ∀ {w' : ControlWorld}, w'.stored = w.stored → StoredGrows w w' := by
    intro w' hstored control hcontrol
    exact ⟨control, hstored.trans hcontrol, le_refl _⟩
  cases op with
  | get =>
    refine .inl ⟨rfl, fun control hcontrol => ⟨control, ?_, le_refl _⟩⟩
    simp [ControlWorld.step, getRuntimeControl, hcontrol]
  | ensure entryEnabled reason updatedBy =>
    refine .inl ⟨rfl, fun control hcontrol => ⟨control, ?_, le_refl _⟩⟩
    simp [ControlWorld.step, ensureRuntimeControl, hcontrol]
  | read call request =>
    left
    simp only [ControlWorld.step]
    split <;> exact ⟨rfl, hsame rfl⟩
  | compareAndSet request =>
    cases hset : compareAndSetRuntimeControl request w.stored with
    | none => exact .inl ⟨by simp [ControlWorld.step, hset], hsame (by simp [ControlWorld.step, hset])⟩
    | some control =>
      obtain ⟨found, hfound, hversion, hnext⟩ := compareAndSet_some hset
      have hunique : ∀ found', w.stored = some found' → found'.version = request.expectedVersion := by
        intro found' hfound'
        obtain rfl : found = found' := Option.some.inj (hfound.symm.trans hfound')
        exact hversion
      refine .inr ⟨⟨request.expectedVersion, request.entryEnabled⟩, control, by simp [ControlWorld.step, hset],
        by simp [ControlWorld.step, hset], hnext, fun found' hfound' => (hunique found' hfound').ge, fun _ => hunique⟩
  | flush call =>
    cases hcall : w.calls call with
    | none => exact .inl ⟨by simp [ControlWorld.step, hcall], hsame (by simp [ControlWorld.step, hcall])⟩
    | some u =>
      cases hflush : u.flush scope w.stored with
      | none =>
        exact .inl ⟨by simp [ControlWorld.step, hcall, hflush], hsame (by simp [ControlWorld.step, hcall, hflush])⟩
      | some control =>
        have hw := hwaiting call u hcall
        have hread : ∀ found, w.stored = some found → ∃ loaded, u.loaded = some loaded ∧
            u.expectedVersion scope = loaded.version := by
          intro found hfound
          have hsome : u.loaded.isSome = true := by rw [flush_stored hflush, hfound]; rfl
          obtain ⟨loaded, hloaded⟩ := Option.isSome_iff_exists.mp hsome
          exact ⟨loaded, hloaded, by rw [hw.expects, hloaded]; rfl⟩
        refine .inr ⟨⟨u.expectedVersion scope, u.request.entryEnabled⟩, control, by simp [ControlWorld.step, hcall, hflush],
          by simp [ControlWorld.step, hcall, hflush], by rw [flush_version hflush, hw.expects], ?_, ?_⟩
        · intro found hfound
          obtain ⟨loaded, hloaded, hexpects⟩ := hread found hfound
          obtain ⟨found', hfound', hle⟩ := hw.behind loaded hloaded
          obtain rfl : found = found' := Option.some.inj (hfound.symm.trans hfound')
          exact hexpects.trans_le hle
        · intro hfinds found hfound
          obtain ⟨loaded, hloaded, hexpects⟩ := hread found hfound
          exact (hfinds u loaded found hcall hloaded hfound).trans hexpects.symm

/-! ## Runs -/

/-- The calls that wait in a state. -/
def AllWait (scope : String) (w : ControlWorld) : Prop := ∀ call u, w.calls call = some u → Waiting scope w u

theorem AllWait.step {w : ControlWorld} (h : AllWait scope w) {op : ControlOp} (hgrows : StoredGrows w (w.step scope op)) :
    AllWait scope (w.step scope op) := by
  intro call u hcall
  rcases calls_step w op hcall with hbefore | ⟨-, hnow⟩
  · exact (h call u hbefore).grows hgrows
  · exact hnow.grows hgrows

/-- Where the version rises, the row does not go back. -/
theorem grows_of_rises {w : ControlWorld} (h : AllWait scope w) {op : ControlOp} (hrises : w.VersionRises scope op) :
    StoredGrows w (w.step scope op) := by
  rcases succeeded_step h op with ⟨-, hgrows⟩ | ⟨s, control, hsucceeded, -⟩
  · exact hgrows
  · intro found hfound
    have hne : (w.step scope op).succeeded ≠ w.succeeded := by simp [hsucceeded]
    obtain ⟨control', hcontrol', hlt⟩ := hrises hne found hfound
    exact ⟨control', hcontrol', hlt.le⟩

/-- A flush that finds another version than its call read takes the stored version back, or leaves it where it is. -/
theorem finds_of_rises {w : ControlWorld} (h : AllWait scope w) {op : ControlOp} (hrises : w.VersionRises scope op) :
    w.FindsWhatItRead op := by
  cases op with
  | flush call =>
    intro u loaded control hcall hloaded hstored
    obtain ⟨control', hcontrol', hle⟩ := (h call u hcall).behind loaded hloaded
    obtain rfl : control = control' := Option.some.inj (hstored.symm.trans hcontrol')
    by_contra hne
    cases hflush : u.flush scope w.stored with
    | none => simp [RuntimeControlUpdate.flush, hstored, hloaded] at hflush
    | some written =>
      have hsucceeded : (w.step scope (.flush call)).succeeded ≠ w.succeeded := by
        simp [ControlWorld.step, hcall, hflush]
      obtain ⟨control', hcontrol', hlt⟩ := hrises hsucceeded control hstored
      have hwritten : control' = written := by
        have hstep : (w.step scope (.flush call)).stored = some written := by simp [ControlWorld.step, hcall, hflush]
        exact Option.some.inj (hcontrol'.symm.trans hstep)
      have hversion : written.version = loaded.version + 1 := by
        rw [flush_version hflush, hloaded]
        rfl
      rw [hwritten] at hlt
      omega
  | _ => trivial

/-- What a run keeps whose flushes find what they read: the successes expect rising versions, all behind the stored one. -/
structure InOrder (scope : String) (w : ControlWorld) : Prop where
  waiting : AllWait scope w
  rising : (w.succeeded.map ControlSuccess.expectedVersion).Pairwise (· < ·)
  behind : ∀ s ∈ w.succeeded, ∃ control, w.stored = some control ∧ s.expectedVersion < control.version

/-- In order, a flush that finds what it read raises the version. -/
theorem rises_of_finds {w : ControlWorld} (h : AllWait scope w) {op : ControlOp} (hfinds : w.FindsWhatItRead op) :
    w.VersionRises scope op := by
  intro hne found hfound
  rcases succeeded_step h op with ⟨hsame, -⟩ | ⟨s, control, -, hstored, hversion, -, hread⟩
  · exact absurd hsame hne
  · have hexpected := hread hfinds found hfound
    exact ⟨control, hstored, by omega⟩

theorem InOrder.step {w : ControlWorld} (h : InOrder scope w) {op : ControlOp} (hfinds : w.FindsWhatItRead op) :
    InOrder scope (w.step scope op) := by
  have hgrows := grows_of_rises h.waiting (rises_of_finds h.waiting hfinds)
  refine ⟨h.waiting.step hgrows, ?_, ?_⟩
  · rcases succeeded_step h.waiting op with ⟨hsame, -⟩ | ⟨s, control, hsucceeded, -, -, -, hread⟩
    · rw [hsame]
      exact h.rising
    · rw [hsucceeded, List.map_append, List.pairwise_append]
      refine ⟨h.rising, List.pairwise_singleton _ _, fun version hmem next hnext => ?_⟩
      obtain ⟨earlier, hearlier, rfl⟩ := List.mem_map.mp hmem
      obtain rfl : next = s.expectedVersion := by simpa using hnext
      obtain ⟨found, hfound, hlt⟩ := h.behind earlier hearlier
      have hexpected := hread hfinds found hfound
      omega
  · intro s hs
    rcases succeeded_step h.waiting op with ⟨hsame, -⟩ | ⟨s', control, hsucceeded, hstored, hversion, -, -⟩
    · rw [hsame] at hs
      obtain ⟨found, hfound, hlt⟩ := h.behind s hs
      obtain ⟨control, hcontrol, hle⟩ := hgrows found hfound
      exact ⟨control, hcontrol, hlt.trans_le hle⟩
    · rw [hsucceeded] at hs
      rcases List.mem_append.mp hs with hold | hnew
      · obtain ⟨found, hfound, hlt⟩ := h.behind s hold
        obtain ⟨control', hcontrol', hle⟩ := hgrows found hfound
        exact ⟨control', hcontrol', hlt.trans_le hle⟩
      · obtain rfl : s = s' := by simpa using hnew
        exact ⟨control, hstored, by omega⟩

theorem inOrder_start (stored : Option RuntimeControl) : InOrder scope { stored } :=
  ⟨fun _ u h => absurd h (Option.some_ne_none u).symm, List.Pairwise.nil, fun _ h => absurd h List.not_mem_nil⟩

end RuntimeControlAux

open RuntimeControlAux

/-- No update is lost in a run exactly if every row that is written by its key has the version its call read. -/
theorem noLostUpdate_iff (stored : Option RuntimeControl) (ops : List ControlOp) :
    NoLostUpdate scope { stored } ops ↔
      Loops.Meets (ControlWorld.step scope) ControlWorld.FindsWhatItRead { stored } ops := by
  have hstart : InOrder scope { stored } := inOrder_start stored
  constructor
  · intro h
    have hkeep : ∀ w op, AllWait scope w → w.VersionRises scope op → AllWait scope (w.step scope op) :=
      fun w op hw hrises => hw.step (grows_of_rises hw hrises)
    exact Loops.Meets.imp hkeep (fun w op hw hrises => finds_of_rises hw hrises) hstart.waiting h.rises
  · intro hmeets
    have hkeep : ∀ w op, InOrder scope w → w.FindsWhatItRead op → InOrder scope (w.step scope op) :=
      fun w op hw hfinds => hw.step hfinds
    have hrun : InOrder scope (ControlWorld.run scope { stored } ops) := Loops.run_keeps hkeep hstart hmeets
    refine ⟨Loops.Meets.imp hkeep (fun w op hw hfinds => rises_of_finds hw.waiting hfinds) hstart hmeets,
      hrun.rising.imp fun hlt => hlt.ne, fun before pause after hsucceeded _ later hlater => ?_⟩
    have hrising := hrun.rising
    rw [hsucceeded, List.map_append, List.pairwise_append, List.map_cons, List.pairwise_cons] at hrising
    exact hrising.2.1.1 _ (List.mem_map_of_mem hlater)

/-- An operator pauses entries while a service that has read the same version releases them. -/
def pauseAndRelease : List ControlOp :=
  [.read 0 { entryEnabled := false, reason := "operator_pause", updatedBy := "operator", expectedVersion := some 3 },
    .read 1 { entryEnabled := true, reason := "standard_runtime", updatedBy := "liveness", expectedVersion := some 3 },
    .flush 0, .flush 1]

/-- Both calls return, and entries are enabled after the pause. -/
theorem pauseAndRelease_loses :
    let stored : RuntimeControl := { scope := "global", reason := "recovery_hold", version := 3 }
    let w := ControlWorld.run "global" { stored := some stored } pauseAndRelease
    w.succeeded = [⟨3, false⟩, ⟨3, true⟩] ∧ w.stored.map RuntimeControl.entryEnabled = some true ∧
      ¬ NoLostUpdate "global" { stored := some stored } pauseAndRelease := by
  refine ⟨by decide +kernel, by decide +kernel, fun h => ?_⟩
  have honce := h.once
  revert honce
  decide +kernel

end TradingPlatform
