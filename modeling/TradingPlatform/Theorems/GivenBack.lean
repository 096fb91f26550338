import TradingPlatform.Engine.SchedulerCoordination
import TradingPlatform.Engine.SchedulerEntry

/-!
# What is given back

A scheduled cycle takes the lease of the single writer, the lease of its slot and the claim of the slot before the `try` whose
`finally` gives them back. A helper that raises in between leaves them, and so does the return for a symbol out of scope.
-/

namespace TradingPlatform

/-- Every lease that was acquired was released, and every claim that was made was finished. -/
structure GivenBack (events : List CoordinatorEvent) : Prop where
  leases : ∀ leaseName, .acquired leaseName ∈ events → ∃ token, .released leaseName token ∈ events
  claims : ∀ id, .claimed id ∈ events → ∃ status reason, .finished id status reason ∈ events ∧ status ≠ "claimed"

/-- A helper returns. -/
def Returns {α : Type} (x : Except PyError α) : Prop := ∃ a, x = .ok a

/-- A lease is granted. -/
def V2CycleHelpers.Grants (helpers : V2CycleHelpers) (leaseName : String) : Prop :=
  ∃ token, helpers.acquireOrRenewLease leaseName = .ok (some token)

/-- The token of a lease is read. -/
def V2CycleHelpers.Reads (helpers : V2CycleHelpers) (leaseName : String) : Prop :=
  ∃ token, helpers.fencingToken leaseName = .ok (some token)

/-- The claim is made here. -/
def V2RequestPayload.Claims (payload : V2RequestPayload) : Prop := strip payload.schedulerCycleId = ""

/-- The slot is run: its lease is held, and it is claimed here or was before. -/
def V2CycleHelpers.Runs (helpers : V2CycleHelpers) (payload : V2RequestPayload) (leaseName : String) : Prop :=
  helpers.Grants leaseName ∧ helpers.Reads leaseName ∧ (payload.Claims → ∃ id, helpers.claimCycle = .ok (some id))

/-- The symbols of the payload can be listed, and on the testnet the manifest allows each. -/
def InScope (config : EngineActivationConfig) (payload : V2RequestPayload) : Prop :=
  ∃ listed, payload.symbols = .ok listed ∧
    (config.executionMode = .binanceTestnet → ∀ symbol ∈ listed, symbol ∈ config.autoSimulationExecutionSymbols)

/-- The calls outside the `try`, and those of the `finally`, return once the lease of the writer is held; and the symbols are in
scope. -/
structure CallsReturn (helpers : V2CycleHelpers) (config : EngineActivationConfig) (payload : V2RequestPayload)
    (leaseName writerLeaseName : String) : Prop where
  slotLease : Returns (helpers.acquireOrRenewLease leaseName)
  writerRelease : Returns (helpers.releaseLease writerLeaseName)
  slotRelease : helpers.Grants leaseName → Returns (helpers.fencingToken leaseName) ∧ Returns (helpers.releaseLease leaseName)
  claim : helpers.Grants leaseName → helpers.Reads leaseName → payload.Claims → Returns helpers.claimCycle
  symbols : helpers.Runs payload leaseName → InScope config payload ∧ Returns helpers.managedSymbolsRequiringRecovery
  finish : helpers.Runs payload leaseName → payload.Claims → Returns helpers.finishCycle

/-- The lease of the single writer is acquired for a slot. -/
def V2CycleHelpers.Enters (helpers : V2CycleHelpers) (config : EngineActivationConfig) (payload : V2RequestPayload)
    (barSlot : ℤ) : Prop :=
  config.v2Activation ≠ .disabled ∧ helpers.Grants (writerLeaseName config) ∧
    ∃ now, helpers.now config payload = .ok (some now) ∧ helpers.slotStart now = .ok barSlot

namespace GivenBackAux

open Attempt

variable {helpers : V2CycleHelpers} {config : EngineActivationConfig} {payload : V2RequestPayload} {l w id : String}
  {s : CoordinatorState}

/-! ## How the calls end -/

theorem ends_helper {α : Type} {x : Except PyError α} {Q : Except PyError α → CoordinatorState → Prop} :
    Ends (helper x) s Q ↔ Q x s := by
  cases x <;> rfl

theorem ends_acquire {name : String} {Q : Except PyError Bool → CoordinatorState → Prop} :
    Ends (acquireOrRenewLease helpers name) s Q ↔ match helpers.acquireOrRenewLease name with
      | .error e => Q (.error e) s
      | .ok none => Q (.ok false) s
      | .ok (some token) => Q (.ok true) (s.acquire name token) := by
  rw [acquireOrRenewLease, ends_bind, ends_helper]
  rcases helpers.acquireOrRenewLease name with e | _ | token <;> rfl

theorem ends_fencingToken {name : String} {Q : Except PyError (Option ℤ) → CoordinatorState → Prop} :
    Ends (fencingToken helpers name) s Q ↔ match helpers.fencingToken name with
      | .error e => Q (.error e) s
      | .ok none => Q (.ok none) s
      | .ok (some token) => Q (.ok (some token)) (s.remember name token) := by
  rw [fencingToken, ends_bind, ends_helper]
  rcases helpers.fencingToken name with e | _ | token <;> rfl

theorem ends_release {name : String} {token : ℤ} (htoken : s.fencingTokens name = some token)
    {Q : Except PyError Unit → CoordinatorState → Prop} :
    Ends (releaseLease helpers name) s Q ↔ match helpers.releaseLease name with
      | .error e => Q (.error e) s
      | .ok () => Q (.ok ()) (s.record (.released name token)) := by
  rw [releaseLease, ends_bind, ends_get]
  simp only [htoken]
  rw [ends_bind, ends_helper]
  cases helpers.releaseLease name <;> rfl

theorem ends_claim {Q : Except PyError (Option String) → CoordinatorState → Prop} :
    Ends (claimCycle helpers) s Q ↔ match helpers.claimCycle with
      | .error e => Q (.error e) s
      | .ok none => Q (.ok none) s
      | .ok (some id) => Q (.ok (some id)) (s.record (.claimed id)) := by
  rw [claimCycle, ends_bind, ends_helper]
  rcases helpers.claimCycle with e | _ | id <;> rfl

theorem ends_finish {status : String} {reason : Option String} {Q : Except PyError Unit → CoordinatorState → Prop} :
    Ends (finishCycle helpers id status reason) s Q ↔ match helpers.finishCycle with
      | .error e => Q (.error e) s
      | .ok () => Q (.ok ()) (s.record (.finished id status reason)) := by
  rw [finishCycle, ends_bind, ends_helper]
  cases helpers.finishCycle <;> rfl

theorem returns_ok {α : Type} (a : α) : Returns (.ok a : Except PyError α) := ⟨a, rfl⟩

theorem not_returns_error {α : Type} (e : PyError) : ¬ Returns (.error e : Except PyError α) := by
  rintro ⟨a, h⟩
  nomatch h

/-- Both leases are released if both calls return; if one raises, the lease of the writer is not released after it. -/
theorem ends_releaseLeases {a b : ℤ} (hl : s.fencingTokens l = some a) (hw : s.fencingTokens w = some b)
    {Q : Except PyError Unit → CoordinatorState → Prop} :
    Ends (releaseLeases helpers l w) s Q ↔ match helpers.releaseLease l with
      | .error e => Q (.error e) s
      | .ok () => match helpers.releaseLease w with
        | .error e => Q (.error e) (s.record (.released l a))
        | .ok () => Q (.ok ()) ((s.record (.released l a)).record (.released w b)) := by
  rw [releaseLeases, ends_bind, ends_release hl]
  cases helpers.releaseLease l with
  | error e => rfl
  | ok u =>
    have hw' : (s.record (.released l a)).fencingTokens w = some b := hw
    exact ends_release hw'

/-! ## What has been done -/

/-- What a coordinator has done when it comes to a part of the cycle: the leases it holds and the claim it made. -/
structure Holds (s : CoordinatorState) (leases claims : List String) : Prop where
  acquired : ∀ name, .acquired name ∈ s.events ↔ name ∈ leases
  claimed : ∀ id, .claimed id ∈ s.events ↔ id ∈ claims
  released : ∀ name token, .released name token ∉ s.events
  finished : ∀ id status reason, .finished id status reason ∉ s.events
  tokens : ∀ name ∈ leases, ∃ token, s.fencingTokens name = some token

theorem Holds.nothing : Holds {} [] [] := by
  constructor <;> simp

theorem Holds.acquire {leases claims : List String} (h : Holds s leases claims) (name : String) (token : ℤ) :
    Holds (s.acquire name token) (name :: leases) claims := by
  refine ⟨fun other => ?_, fun id => ?_, fun other t => ?_, fun id status reason => ?_, fun other hother => ?_⟩
  · simp [CoordinatorState.acquire, h.acquired, or_comm]
  · simp [CoordinatorState.acquire, h.claimed]
  · simp [CoordinatorState.acquire, h.released]
  · simp [CoordinatorState.acquire, h.finished]
  · by_cases heq : other = name
    · exact ⟨token, by simp [CoordinatorState.acquire, heq]⟩
    · obtain ⟨t, ht⟩ := h.tokens other ((List.mem_cons.mp hother).resolve_left heq)
      exact ⟨t, by simp [CoordinatorState.acquire, Function.update_of_ne heq, ht]⟩

theorem Holds.remember {leases claims : List String} (h : Holds s leases claims) (name : String) (token : ℤ) :
    Holds (s.remember name token) leases claims := by
  refine ⟨h.acquired, h.claimed, h.released, h.finished, fun other hother => ?_⟩
  by_cases heq : other = name
  · exact ⟨token, by simp [CoordinatorState.remember, heq]⟩
  · obtain ⟨t, ht⟩ := h.tokens other hother
    exact ⟨t, by simp [CoordinatorState.remember, Function.update_of_ne heq, ht]⟩

theorem Holds.claim {leases : List String} (h : Holds s leases []) (id : String) :
    Holds (s.record (.claimed id)) leases [id] := by
  refine ⟨fun name => ?_, fun other => ?_, fun name token => ?_, fun other status reason => ?_, h.tokens⟩
  · simp [CoordinatorState.record, h.acquired]
  · simp [CoordinatorState.record, h.claimed]
  · simp [CoordinatorState.record, h.released]
  · simp [CoordinatorState.record, h.finished]

/-- What is held is given back exactly if it is released and finished in what follows. -/
theorem Holds.isGivenBack_iff {leases claims : List String} (h : Holds s leases claims) (later : List CoordinatorEvent)
    (hmore : ∀ name, .acquired name ∉ later) (hnone : ∀ id, .claimed id ∉ later) :
    GivenBack (s.events ++ later) ↔ (∀ name ∈ leases, ∃ token, .released name token ∈ later) ∧
      ∀ id ∈ claims, ∃ status reason, .finished id status reason ∈ later ∧ status ≠ "claimed" := by
  constructor
  · rintro ⟨hleases, hclaims⟩
    refine ⟨fun name hname => ?_, fun id hid => ?_⟩
    · obtain ⟨token, htoken⟩ := hleases name (List.mem_append_left _ ((h.acquired name).mpr hname))
      exact ⟨token, (List.mem_append.mp htoken).resolve_left (h.released name token)⟩
    · obtain ⟨status, reason, hdone, hstatus⟩ := hclaims id (List.mem_append_left _ ((h.claimed id).mpr hid))
      exact ⟨status, reason, (List.mem_append.mp hdone).resolve_left (h.finished id status reason), hstatus⟩
  · rintro ⟨hleases, hclaims⟩
    refine ⟨fun name hname => ?_, fun id hid => ?_⟩
    · obtain ⟨token, htoken⟩ := hleases name ((h.acquired name).mp ((List.mem_append.mp hname).resolve_right (hmore name)))
      exact ⟨token, List.mem_append_right _ htoken⟩
    · obtain ⟨status, reason, hdone, hstatus⟩ :=
        hclaims id ((h.claimed id).mp ((List.mem_append.mp hid).resolve_right (hnone id)))
      exact ⟨status, reason, List.mem_append_right _ hdone, hstatus⟩

/-- A lease that is held and not released is not given back. -/
theorem Holds.not_givenBack {leases claims : List String} {name : String} (h : Holds s leases claims) (hname : name ∈ leases) :
    ¬ GivenBack s.events := by
  intro hback
  have hnone := (h.isGivenBack_iff [] (by simp) (by simp)).mp (by rwa [List.append_nil])
  obtain ⟨token, htoken⟩ := hnone.1 name hname
  exact List.not_mem_nil htoken

/-! ## The parts of the cycle -/

/-- What a part of the cycle leaves is given back. -/
abbrev GivesBack {α : Type} (x : CoordinatorM α) (s : CoordinatorState) : Prop := Ends x s fun _ s' => GivenBack s'.events

theorem givesBack_return {α β : Type} {x : CoordinatorM α} {r : β} : GivesBack (x >>= fun _ => pure r) s ↔ GivesBack x s := by
  rw [GivesBack, ends_bind]
  refine ends_congr fun result s' => ?_
  cases result <;> rfl

variable (helpers) in
/-- The two leases, given up. -/
theorem releaseLeases_iff {claims : List String} (h : Holds s [l, w] claims) (done : List CoordinatorEvent)
    (hmore : ∀ name, .acquired name ∉ done) (hnone : ∀ id, .claimed id ∉ done)
    (hreleased : ∀ name token, .released name token ∉ done) :
    GivesBack (releaseLeases helpers l w) { s with events := s.events ++ done } ↔
      (Returns (helpers.releaseLease l) ∧ Returns (helpers.releaseLease w)) ∧
        ∀ id ∈ claims, ∃ status reason, .finished id status reason ∈ done ∧ status ≠ "claimed" := by
  obtain ⟨a, ha⟩ := h.tokens l (by simp)
  obtain ⟨b, hb⟩ := h.tokens w (by simp)
  rw [GivesBack, ends_releaseLeases (s := { s with events := s.events ++ done }) ha hb]
  cases hl : helpers.releaseLease l with
  | error e =>
    refine iff_of_false (fun hback => ?_) fun hboth => not_returns_error e hboth.1.1
    obtain ⟨token, htoken⟩ := ((h.isGivenBack_iff done hmore hnone).mp hback).1 l (by simp)
    exact hreleased l token htoken
  | ok u =>
    cases hw : helpers.releaseLease w with
    | error e =>
      refine iff_of_false (fun hback => ?_) fun hboth => not_returns_error e hboth.1.2
      simp only [CoordinatorState.record, List.append_assoc] at hback
      obtain ⟨token, htoken⟩ := ((h.isGivenBack_iff _ (by simpa using hmore) (by simpa using hnone)).mp hback).1 w (by simp)
      rcases List.mem_append.mp htoken with hdone | hlast
      · exact hreleased w token hdone
      · -- the lease of the slot, whose release returned
        obtain ⟨rfl, -⟩ := CoordinatorEvent.released.inj (List.mem_singleton.mp hlast)
        rw [hl] at hw
        nomatch hw
    | ok v =>
      simp only [CoordinatorState.record, List.append_assoc]
      rw [h.isGivenBack_iff _ (by simpa using hmore) (by simpa using hnone)]
      have hleases : ∀ name ∈ [l, w], ∃ token, .released name token ∈
          done ++ ([.released l a] ++ [.released w b] : List CoordinatorEvent) := by
        intro name hname
        rcases List.mem_cons.mp hname with rfl | hname
        · exact ⟨a, by simp⟩
        · exact ⟨b, by simp [List.mem_singleton.mp hname]⟩
      refine ⟨fun hboth => ⟨⟨returns_ok u, returns_ok v⟩, fun id hid => ?_⟩, fun hboth => ⟨hleases, fun id hid => ?_⟩⟩
      · simpa using hboth.2 id hid
      · simpa using hboth.2 id hid

/-- The lease of the writer, given up where the slot has another leader. -/
theorem releaseWriter_iff (h : Holds s [w] []) :
    GivesBack (releaseLease helpers w) s ↔ Returns (helpers.releaseLease w) := by
  obtain ⟨token, htoken⟩ := h.tokens w (by simp)
  rw [GivesBack, ends_release htoken]
  cases helpers.releaseLease w with
  | error e => exact iff_of_false (h.not_givenBack (List.mem_singleton_self w)) (not_returns_error e)
  | ok u =>
    refine iff_of_true ?_ (returns_ok u)
    exact (h.isGivenBack_iff _ (by simp) (by simp)).mpr ⟨by simp, by simp⟩

/-- The `finally` of a cycle. -/
theorem finally_iff {own : Bool} (h : Holds s [l, w] (if own then [id] else [])) {status : String} (hstatus : status ≠ "claimed")
    (reason : Option String) :
    GivesBack (do
        if own then finishCycle helpers id status reason
        releaseLeases helpers l w) s ↔
      (own = true → Returns helpers.finishCycle) ∧ Returns (helpers.releaseLease l) ∧ Returns (helpers.releaseLease w) := by
  cases own with
  | false =>
    have hboth := releaseLeases_iff helpers h [] (by simp) (by simp) (by simp)
    simp only [List.append_nil] at hboth
    simpa using hboth
  | true =>
    simp only [if_true] at h ⊢
    rw [GivesBack, ends_bind, ends_finish]
    cases helpers.finishCycle with
    | error e => exact iff_of_false (h.not_givenBack List.mem_cons_self) fun hboth => not_returns_error e (hboth.1 trivial)
    | ok u =>
      have hboth := releaseLeases_iff helpers h [.finished id status reason] (by simp) (by simp) (by simp)
      refine hboth.trans ?_
      simp [Returns, hstatus]

/-- No requested symbol is out of scope exactly if none of the payload is. -/
theorem invalidSymbols_nil_iff (allowed listed : List String) :
    ((if listed.isEmpty then allowed else listed).filter fun symbol => !allowed.contains symbol).dedup = [] ↔
      ∀ symbol ∈ listed, symbol ∈ allowed := by
  rw [List.dedup_eq_nil, List.filter_eq_nil_iff]
  cases listed with
  | nil => simp
  | cons symbol rest => simp

/-- A cycle in a slot that is claimed. -/
theorem claimedCycle_iff (own : Bool) (h : Holds s [l, w] (if own then [id] else [])) :
    GivesBack (runClaimedCycle helpers config payload l w own id) s ↔
      (InScope config payload ∧ Returns helpers.managedSymbolsRequiringRecovery) ∧
        (own = true → Returns helpers.finishCycle) ∧ Returns (helpers.releaseLease l) ∧ Returns (helpers.releaseLease w) := by
  have hleft := h.not_givenBack List.mem_cons_self
  rw [GivesBack, runClaimedCycle, ends_bind, ends_helper]
  cases hsymbols : payload.symbols with
  | error e =>
    refine iff_of_false hleft fun hall => ?_
    obtain ⟨listed, hlisted, -⟩ := hall.1.1
    rw [hsymbols] at hlisted
    nomatch hlisted
  | ok listed =>
    have hinvalid := invalidSymbols_nil_iff config.autoSimulationExecutionSymbols listed
    dsimp only
    generalize (if listed.isEmpty then config.autoSimulationExecutionSymbols else listed) = requested at hinvalid ⊢
    split
    · rename_i hscope
      refine iff_of_false hleft fun hall => ?_
      obtain ⟨listed', hlisted, hallowed⟩ := hall.1.1
      cases hsymbols.symm.trans hlisted
      exact hscope.2 (hinvalid.mpr (hallowed hscope.1))
    · rename_i hscope
      have hallowed : InScope config payload := by
        refine ⟨listed, hsymbols, fun htestnet => hinvalid.mp ?_⟩
        by_contra hne
        exact hscope ⟨htestnet, hne⟩
      rw [ends_bind, ends_helper]
      cases hrecovery : helpers.managedSymbolsRequiringRecovery with
      | error e => exact iff_of_false hleft fun hall => not_returns_error e hall.1.2
      | ok recovery =>
        dsimp only
        rw [ends_bind, ends_finally, ends_helper]
        generalize runAdapterCycles helpers (requested ++ recovery).reverse.dedup.reverse = outcome
        have hstatus : (if outcome.2 then "failed" else "completed") ≠ "claimed" := by
          cases outcome.2 <;> decide
        refine Iff.trans (ends_congr fun r s' => ?_) ((finally_iff h hstatus _).trans (by simp [hallowed, returns_ok]))
        -- the events are those of the `finally`, however it and the `try` end
        cases r <;> rcases outcome.1 <;> rfl

/-- Where the slot is not run, the leases are to be released. -/
theorem callsReturn_iff_of_not_runs (hgrants : helpers.Grants l) (hreads : Returns (helpers.fencingToken l))
    (hclaim : helpers.Reads l → payload.Claims → Returns helpers.claimCycle) (hruns : ¬ helpers.Runs payload l) :
    CallsReturn helpers config payload l w ↔ Returns (helpers.releaseLease l) ∧ Returns (helpers.releaseLease w) := by
  constructor
  · exact fun hall => ⟨(hall.slotRelease hgrants).2, hall.writerRelease⟩
  · rintro ⟨hslot, hwriter⟩
    obtain ⟨token, htoken⟩ := hgrants
    exact ⟨⟨_, htoken⟩, hwriter, fun _ => ⟨hreads, hslot⟩, fun _ => hclaim, fun hrun => absurd hrun hruns,
      fun hrun => absurd hrun hruns⟩

/-- Where it is run, the calls around the `try` are to return, and the symbols are to be in scope. -/
theorem callsReturn_iff_of_runs (hruns : helpers.Runs payload l) :
    CallsReturn helpers config payload l w ↔
      (InScope config payload ∧ Returns helpers.managedSymbolsRequiringRecovery) ∧
        (payload.Claims → Returns helpers.finishCycle) ∧ Returns (helpers.releaseLease l) ∧
          Returns (helpers.releaseLease w) := by
  constructor
  · exact fun hall => ⟨hall.symbols hruns, hall.finish hruns, (hall.slotRelease hruns.1).2, hall.writerRelease⟩
  · rintro ⟨hsymbols, hfinish, hslot, hwriter⟩
    obtain ⟨⟨granted, hgranted⟩, ⟨token, htoken⟩, hclaim⟩ := hruns
    refine ⟨⟨_, hgranted⟩, hwriter, fun _ => ⟨⟨_, htoken⟩, hslot⟩, fun _ _ hclaims => ?_, fun _ => hsymbols, fun _ => hfinish⟩
    obtain ⟨id, hid⟩ := hclaim hclaims
    exact ⟨_, hid⟩

/-- A cycle while the lease of the writer is held. -/
theorem writerCycle_iff (h : Holds s [w] []) :
    GivesBack (runWriterCycle helpers config payload l w) s ↔ CallsReturn helpers config payload l w := by
  rw [GivesBack, runWriterCycle, ends_bind, ends_acquire]
  rcases hacquire : helpers.acquireOrRenewLease l with e | _ | granted
  · refine iff_of_false (h.not_givenBack (List.mem_singleton_self w)) fun hall => ?_
    have hslot := hall.slotLease
    rw [hacquire] at hslot
    exact not_returns_error e hslot
  · -- another leader has the slot
    have hnone : ¬ helpers.Grants l := by
      rintro ⟨token, htoken⟩
      rw [hacquire] at htoken
      nomatch htoken
    refine (givesBack_return.trans (releaseWriter_iff h)).trans ⟨fun hwriter => ?_, fun hall => hall.writerRelease⟩
    exact ⟨⟨_, hacquire⟩, hwriter, fun hgrants => absurd hgrants hnone, fun hgrants => absurd hgrants hnone,
      fun hrun => absurd hrun.1 hnone, fun hrun => absurd hrun.1 hnone⟩
  · have hgrants : helpers.Grants l := ⟨granted, hacquire⟩
    have hheld := h.acquire l granted
    dsimp only
    rw [if_neg (show ¬ (!true) = true by decide), ends_bind, ends_fencingToken]
    rcases hfence : helpers.fencingToken l with e | _ | token
    · refine iff_of_false (hheld.not_givenBack List.mem_cons_self) fun hall => ?_
      have hreads := (hall.slotRelease hgrants).1
      rw [hfence] at hreads
      exact not_returns_error e hreads
    · have hlost : ¬ helpers.Reads l := by
        rintro ⟨token, htoken⟩
        rw [hfence] at htoken
        nomatch htoken
      have hboth := releaseLeases_iff helpers hheld [] (by simp) (by simp) (by simp)
      rw [callsReturn_iff_of_not_runs hgrants ⟨_, hfence⟩ (fun hreads => absurd hreads hlost) fun hrun => hlost hrun.2.1]
      simpa using givesBack_return.trans hboth
    · have hreads : helpers.Reads l := ⟨token, hfence⟩
      have hread := hheld.remember l token
      dsimp only
      split
      · rename_i hclaims
        rw [ends_bind, ends_claim]
        rcases hclaim : helpers.claimCycle with e | _ | id
        · refine iff_of_false (hread.not_givenBack List.mem_cons_self) fun hall => ?_
          have hclaimed := hall.claim hgrants hreads hclaims
          rw [hclaim] at hclaimed
          exact not_returns_error e hclaimed
        · have hlost : ¬ helpers.Runs payload l := by
            rintro ⟨-, -, hrun⟩
            obtain ⟨id, hid⟩ := hrun hclaims
            rw [hclaim] at hid
            nomatch hid
          have hboth := releaseLeases_iff helpers hread [] (by simp) (by simp) (by simp)
          rw [callsReturn_iff_of_not_runs hgrants ⟨_, hfence⟩ (fun _ _ => ⟨_, hclaim⟩) hlost]
          simpa using givesBack_return.trans hboth
        · have hruns : helpers.Runs payload l := ⟨hgrants, hreads, fun _ => ⟨id, hclaim⟩⟩
          rw [callsReturn_iff_of_runs hruns]
          exact (claimedCycle_iff true (hread.claim id)).trans (by simp [show payload.Claims from hclaims])
      · rename_i hclaims
        have hruns : helpers.Runs payload l := ⟨hgrants, hreads, fun hclaim => absurd hclaim hclaims⟩
        rw [callsReturn_iff_of_runs hruns]
        exact (claimedCycle_iff false hread).trans (by simp [show ¬ payload.Claims from hclaims])

end GivenBackAux

open Attempt GivenBackAux

/-- What a scheduled cycle does to the leases and the claims. -/
def cycleEvents (helpers : V2CycleHelpers) (config : EngineActivationConfig) (payload : V2RequestPayload) :
    List CoordinatorEvent :=
  ((executeV2AutomatedTradingCycles helpers config payload).exec {}).2.events

/-- A cycle gives back what it took exactly if, once it holds the lease of the single writer, the calls outside its `try` and those
of its `finally` return and the symbols are in scope. -/
theorem givenBack_iff (helpers : V2CycleHelpers) (config : EngineActivationConfig) (payload : V2RequestPayload) :
    GivenBack (cycleEvents helpers config payload) ↔ ∀ barSlot, helpers.Enters config payload barSlot →
      CallsReturn helpers config payload (slotLeaseName config barSlot) (writerLeaseName config) := by
  have hnothing : GivenBack ({} : CoordinatorState).events := ⟨by simp, by simp⟩
  show GivesBack (executeV2AutomatedTradingCycles helpers config payload) {} ↔ _
  rw [GivesBack, executeV2AutomatedTradingCycles]
  split
  · rename_i hdisabled
    exact iff_of_true hnothing fun _ henters => absurd hdisabled henters.1
  · rename_i hactive
    rw [ends_bind, ends_helper]
    rcases hnow : helpers.now config payload with e | _ | now
    · refine iff_of_true hnothing fun _ henters => ?_
      obtain ⟨-, -, now, hgiven, -⟩ := henters
      rw [hnow] at hgiven
      nomatch hgiven
    · refine iff_of_true hnothing fun _ henters => ?_
      obtain ⟨-, -, now, hgiven, -⟩ := henters
      rw [hnow] at hgiven
      nomatch hgiven
    · have hslots : ∀ barSlot, helpers.Enters config payload barSlot ↔
          helpers.Grants (writerLeaseName config) ∧ helpers.slotStart now = .ok barSlot := by
        intro barSlot
        simp [V2CycleHelpers.Enters, hactive, hnow]
      simp only [hslots]
      rw [ends_bind, ends_helper]
      cases hslot : helpers.slotStart now with
      | error e => exact iff_of_true hnothing fun _ henters => nomatch henters.2
      | ok barSlot =>
        dsimp only
        rw [ends_bind, ends_acquire]
        rcases hacquire : helpers.acquireOrRenewLease (writerLeaseName config) with e | _ | token
        · refine iff_of_true hnothing fun _ henters => ?_
          obtain ⟨token, htoken⟩ := henters.1
          rw [hacquire] at htoken
          nomatch htoken
        · refine iff_of_true hnothing fun _ henters => ?_
          obtain ⟨token, htoken⟩ := henters.1
          rw [hacquire] at htoken
          nomatch htoken
        · have hgrants : helpers.Grants (writerLeaseName config) := ⟨token, hacquire⟩
          refine (writerCycle_iff (Holds.nothing.acquire (writerLeaseName config) token)).trans ?_
          constructor
          · rintro hall _ ⟨-, hsame⟩
            rwa [← Except.ok.inj hsame]
          · exact fun hall => hall barSlot ⟨hgrants, rfl⟩

/-! ## What is done in the tables -/

/-- A release of a lease that the coordinator holds with the token it remembers expires the lease. -/
theorem release_expires (w : LeaseWorld) (call : ℕ) (c : SchedulerCoordinator) (now : ℤ) (lease : SchedulerLease)
    (hlease : w.lease = some lease) (howner : lease.ownerId = c.instanceId)
    (htoken : w.fencingTokens c.instanceId = some lease.fencingToken) :
    ((w.step (.releaseLease call c none now)).step (.proceed call)).lease = some { lease with expiresAt := now } := by
  simp [LeaseWorld.step, LeaseCall.proceed, SchedulerCoordinator.releaseLease, tokenOr, htoken, hlease,
    SchedulerCoordinator.holds, howner]

/-- A cycle that is finished has the status it is finished with. -/
theorem finish_status (w : CycleWorld) (call : ℕ) (c : SchedulerCoordinator) (f : CycleFinish) (others : ℤ → Bool)
    (row : SchedulerCycle) (hrow : w.row = some row) (hid : row.schedulerCycleId = f.schedulerCycleId)
    (halive : w.alive c.instanceId = true) :
    (((w.step (.finishCycle call c f)).step (.proceed call others)).row).map SchedulerCycle.status = some f.status := by
  have hloaded : (some row).filter (fun row => decide (row.schedulerCycleId = f.schedulerCycleId)) = some row := by
    simp [Option.filter, hid]
  simp only [CycleWorld.step, hrow, halive, if_true, hloaded, Option.map_some, Function.update_self, CycleCall.proceed]
  simp [SchedulerCycle.commit, CycleFinish.finished]

/-! ## A symbol out of scope -/

/-- Helpers that all return. -/
def sampleHelpers : V2CycleHelpers where
  fetchBinanceServerTime := .ok (some 1000)
  wallClock := 1000
  slotStart now := .ok (now / 900 * 900)
  acquireOrRenewLease _ := .ok (some 1)
  fencingToken _ := .ok (some 1)
  releaseLease _ := .ok ()
  claimCycle := .ok (some "cycle-1")
  finishCycle := .ok ()
  managedSymbolsRequiringRecovery := .ok []
  loadOperatorSettings := .ok ()
  buildAdapter := .ok ()
  symbolCycle _ := .ok false

/-- A testnet whose manifest allows two symbols. -/
def testnetConfig : EngineActivationConfig :=
  { v2Activation := .active, executionMode := .binanceTestnet, autoSimulationExecutionSymbols := ["BTC/USDT", "ETH/USDT"] }

/-- A request for another symbol leaves both leases and its claim. -/
theorem outOfScope_leaves :
    cycleEvents sampleHelpers testnetConfig { symbols := .ok ["SOL/USDT"] } =
        [.acquired "automated_trading_v2:BINANCE_TESTNET:single_writer", .acquired "automated_trading_v2:BINANCE_TESTNET:900",
          .claimed "cycle-1"] ∧
      ¬ GivenBack (cycleEvents sampleHelpers testnetConfig { symbols := .ok ["SOL/USDT"] }) := by
  have hevents : cycleEvents sampleHelpers testnetConfig { symbols := .ok ["SOL/USDT"] } =
      [.acquired "automated_trading_v2:BINANCE_TESTNET:single_writer", .acquired "automated_trading_v2:BINANCE_TESTNET:900",
        .claimed "cycle-1"] := by
    decide +kernel
  refine ⟨hevents, fun hback => ?_⟩
  rw [hevents] at hback
  obtain ⟨token, htoken⟩ := hback.leases "automated_trading_v2:BINANCE_TESTNET:900" (by simp)
  simp at htoken

end TradingPlatform
