import Mathlib.Data.List.Chain
import TradingPlatform.Engine.ProposalReplay
import TradingPlatform.Lib.Loops

/-!
# What a proposal replay accounts for

Every trade closes what was filled, pays the fee of both sides on it and is worth its slices. Two trades overlap exactly where a bar
closes the open position and the same bar opens another one at its open.
-/

namespace TradingPlatform

variable {last last' : Option OHLCVBar} {bars : List OHLCVBar}

/-- The fraction of slices, and their weighted return. -/
def sliceFraction (slices : List ReplaySlice) : ℚ := (slices.map (·.fraction)).sum

def sliceReturn (side : Direction) (entry : ℚ) (slices : List ReplaySlice) : ℚ :=
  (slices.map fun s => directionalReturn side entry s.exitPrice * s.fraction).sum

/-- A trade that is accounted for: its slices close what was filled, its fees are those of both sides, its gross return is that of
its slices. -/
structure TradeAccounted (cost : ReplayCostModel) (t : ProposalReplayTrade) : Prop where
  nonneg : ∀ s ∈ t.slices, 0 ≤ s.fraction
  closes : sliceFraction t.slices = t.filledFraction
  fees : t.grossReturn - t.netReturn - t.fundingCost.getD 0 = cost.feePerSide * 2 * t.filledFraction
  gross : t.grossReturn = sliceReturn t.side t.entryPrice t.slices

/-- A trade opens later than another was closed. -/
def ProposalReplayTrade.After (t t' : ProposalReplayTrade) : Prop := t.closedAt < t'.openedAt

namespace ProposalReplayRunner

variable {Context : Type} (runner : ProposalReplayRunner Context)

/-- The position that a proposal of the context would open at the bar. -/
def opening (context : Context) (bar : OHLCVBar) : Except PyError (Option OpenProposalPosition) :=
  match runner.source.proposal context with
  | none => .ok none
  | some proposal => if proposal.expiresAt ≤ bar.timestamp then .ok none else runner.cost.openProposal proposal bar runner.mode

/-- If the bar closes the open position, the context opens no other one at it. -/
def OpensApart (s : ProposalReplayState) (context : Context) (bar : OHLCVBar) : Prop :=
  ∀ p t, s.position = some p → runner.cost.advanceProposal p bar = .ok (.closed t) → runner.opening context bar = .ok none

/-- Every step of a run meets a condition. -/
def eachStep (P : ProposalReplayState → Context → OHLCVBar → Prop) (s : ProposalReplayState) : List Context → List OHLCVBar → Prop
  | context :: contexts, bar :: bars =>
    P s context bar ∧ ∀ s', runner.step s context bar = .ok s' → eachStep P s' contexts bars
  | _, _ => True

end ProposalReplayRunner

namespace ProposalReplayAux

open Loops

variable {Context : Type} {runner : ProposalReplayRunner Context} {cost : ReplayCostModel} {p : OpenProposalPosition}
  {bar : OHLCVBar}

/-! ### The accounts of a position -/

/-- A position is accounted for by the slices it closed. -/
structure PositionAccounted (cost : ReplayCostModel) (p : OpenProposalPosition) : Prop where
  nonneg : ∀ s ∈ p.slices, 0 ≤ s.fraction
  remaining_nonneg : 0 ≤ p.remainingFraction
  filled_nonneg : 0 ≤ p.filledFraction
  fractions_nonneg : ∀ t ∈ p.targets, 0 ≤ t.quantityFraction
  closes : sliceFraction p.slices + p.remainingFraction = p.filledFraction
  fees : p.realizedCost = cost.feePerSide * (p.filledFraction + sliceFraction p.slices)
  gross : p.realizedGross = sliceReturn p.proposal.side p.entryPrice p.slices

theorem sliceFraction_append (l : List ReplaySlice) (s : ReplaySlice) :
    sliceFraction (l ++ [s]) = sliceFraction l + s.fraction := by
  simp [sliceFraction]

theorem sliceReturn_append (side : Direction) (entry : ℚ) (l : List ReplaySlice) (s : ReplaySlice) :
    sliceReturn side entry (l ++ [s]) = sliceReturn side entry l + directionalReturn side entry s.exitPrice * s.fraction := by
  simp [sliceReturn]

/-- A target closes a slice that is there. -/
theorem PositionAccounted.hitTarget (h : PositionAccounted cost p) (bar : OHLCVBar) {target : ExitTarget} (hmem : target ∈ p.targets) :
    PositionAccounted cost (cost.hitTarget bar p target) ∧ (cost.hitTarget bar p target).targets = p.targets ∧
      (cost.hitTarget bar p target).openedAt = p.openedAt := by
  unfold ReplayCostModel.hitTarget
  dsimp only
  split
  · exact ⟨h, rfl, rfl⟩
  split
  · refine ⟨?_, rfl, rfl⟩
    have hslice : 0 ≤ min p.remainingFraction (target.quantityFraction * p.filledFraction) :=
      le_min h.remaining_nonneg (mul_nonneg (h.fractions_nonneg target hmem) h.filled_nonneg)
    refine ⟨?_, sub_nonneg.mpr (min_le_left _ _), h.filled_nonneg, h.fractions_nonneg, ?_, ?_, ?_⟩
    · intro s hs
      rcases List.mem_append.mp hs with hs | hs
      · exact h.nonneg s hs
      · rw [List.mem_singleton.mp hs]
        exact hslice
    · have := h.closes
      rw [sliceFraction_append]
      dsimp only
      linarith
    · dsimp only
      rw [h.fees, sliceFraction_append]
      ring
    · dsimp only
      rw [h.gross, sliceReturn_append]
  · exact ⟨h, rfl, rfl⟩

/-- The loop over the targets. -/
theorem PositionAccounted.hitTargets (h : PositionAccounted cost p) (bar : OHLCVBar) (targets : List ExitTarget)
    (hsub : ∀ t ∈ targets, t ∈ p.targets) : PositionAccounted cost (targets.foldl (cost.hitTarget bar) p) ∧
      (targets.foldl (cost.hitTarget bar) p).openedAt = p.openedAt := by
  induction targets generalizing p with
  | nil => exact ⟨h, rfl⟩
  | cons target targets ih =>
    rw [List.forall_mem_cons] at hsub
    obtain ⟨hacc, htargets, hopened⟩ := h.hitTarget bar hsub.1
    obtain ⟨hrest, hrestOpened⟩ := ih hacc (htargets ▸ hsub.2)
    exact ⟨hrest, hrestOpened.trans hopened⟩

/-- The final close closes what remains. -/
theorem PositionAccounted.close (h : PositionAccounted cost p) (closedAt : ℤ) (price : ℚ) (reason : String) :
    TradeAccounted cost (cost.closeProposal p closedAt price reason) := by
  unfold ReplayCostModel.closeProposal
  dsimp only
  have hcloses := h.closes
  refine ⟨?_, ?_, ?_, ?_⟩
  · intro s hs
    rcases List.mem_append.mp hs with hs | hs
    · exact h.nonneg s hs
    · rw [List.mem_singleton.mp hs]
      exact h.remaining_nonneg
  · rw [sliceFraction_append]
    exact hcloses
  · dsimp only
    rw [h.fees, ← hcloses]
    ring
  · dsimp only
    rw [h.gross, sliceReturn_append]

/-- An exit plan keeps the fractions of its proposal. -/
theorem buildAdaptiveExit_fractions {proposal : StrategyProposal} {filled atr : ℚ} {plan : AdaptiveExitPlan}
    (h : buildAdaptiveExit proposal filled atr = .ok plan) : ∀ t ∈ plan.targets, 0 ≤ t.quantityFraction := by
  unfold buildAdaptiveExit at h
  simp only [guard_eq_ok] at h
  obtain ⟨-, -, -, -, -, h⟩ := h
  cases h
  intro t ht
  obtain ⟨target, htarget, rfl⟩ := List.mem_map.mp ht
  exact (proposal.target_bounds target htarget).2.1.le

/-- A position of which nothing is closed yet. -/
theorem accounted_open {proposal : StrategyProposal} {mode : ProposalExitMode} {entry stop : ℚ} {targets : List ExitTarget}
    (hfractions : ∀ t ∈ targets, 0 ≤ t.quantityFraction) :
    PositionAccounted cost { proposal := proposal, openedAt := bar.timestamp, entryPrice := entry,
                             filledFraction := cost.partialFillFraction, initialStop := stop, targets := targets,
                             remainingFraction := cost.partialFillFraction,
                             realizedCost := cost.feePerSide * cost.partialFillFraction, mode := mode } where
  nonneg := fun s hs => absurd hs List.not_mem_nil
  remaining_nonneg := cost.partial_pos.le
  filled_nonneg := cost.partial_pos.le
  fractions_nonneg := hfractions
  closes := by simp [sliceFraction]
  fees := by simp [sliceFraction]
  gross := rfl

/-- A position is opened at the bar with nothing closed. -/
theorem openProposal_accounted {proposal : StrategyProposal} {mode : ProposalExitMode}
    (h : cost.openProposal proposal bar mode = .ok (some p)) : PositionAccounted cost p ∧ p.openedAt = bar.timestamp := by
  unfold ReplayCostModel.openProposal at h
  dsimp only at h
  split at h
  · nomatch h
  split at h
  · nomatch h
  split at h
  · nomatch h
  cases mode with
  | v2SingleTarget =>
    obtain ⟨projected, _, h⟩ := bind_eq_ok.mp h
    cases h
    refine ⟨accounted_open fun t ht => ?_, rfl⟩
    rw [List.mem_singleton.mp ht]
    exact zero_le_one
  | adaptiveExit =>
    obtain ⟨plan, hplan, h⟩ := bind_eq_ok.mp h
    cases h
    exact ⟨accounted_open (buildAdaptiveExit_fractions hplan), rfl⟩

/-- A bar keeps the accounts of a position, or closes it into a trade that is accounted for. -/
theorem advanceProposal_accounted (h : PositionAccounted cost p) {out : Advanced} (hadvance : cost.advanceProposal p bar = .ok out) :
    (∃ q, out = .still q ∧ PositionAccounted cost q ∧ q.openedAt = p.openedAt) ∨
      ∃ t, out = .closed t ∧ TradeAccounted cost t ∧ t.openedAt = p.openedAt ∧ t.closedAt = bar.timestamp := by
  have hheld : PositionAccounted cost { p with barsHeld := p.barsHeld + 1 } :=
    ⟨h.nonneg, h.remaining_nonneg, h.filled_nonneg, h.fractions_nonneg, h.closes, h.fees, h.gross⟩
  obtain ⟨hacc, hopened⟩ := hheld.hitTargets bar p.targets fun t ht => ht
  unfold ReplayCostModel.advanceProposal at hadvance
  dsimp only at hadvance hacc hopened
  generalize p.targets.foldl (cost.hitTarget bar) _ = q at hadvance hacc hopened
  split at hadvance
  · cases hadvance
    exact Or.inr ⟨_, rfl, hheld.close _ _ _, rfl, rfl⟩
  split at hadvance
  · cases hadvance
    exact Or.inr ⟨_, rfl, hacc.close _ _ _, hopened, rfl⟩
  cases hmode : q.mode with
  | v2SingleTarget =>
    rw [hmode] at hadvance
    cases hadvance
    exact Or.inl ⟨q, rfl, hacc, hopened⟩
  | adaptiveExit =>
    rw [hmode] at hadvance
    obtain ⟨plan, _, hadvance⟩ := bind_eq_ok.mp hadvance
    split at hadvance
    · cases hadvance
      exact Or.inr ⟨_, rfl, hacc.close _ _ _, hopened, rfl⟩
    · cases hadvance
      exact Or.inl ⟨q, rfl, hacc, hopened⟩

/-! ### One step -/

variable {s s' : ProposalReplayState} {context : Context}

/-- What a bar does to an open position: it stays open, or it is the next trade. -/
inductive Settled (cost : ReplayCostModel) (s : ProposalReplayState) (p : OpenProposalPosition) (bar : OHLCVBar) :
    ProposalReplayState → Prop where
  | still {q : OpenProposalPosition} (hq : PositionAccounted cost q) (hopened : q.openedAt = p.openedAt) :
      Settled cost s p bar { s with position := some q }
  | closed {t : ProposalReplayTrade} (hadvance : cost.advanceProposal p bar = .ok (.closed t)) (ht : TradeAccounted cost t)
      (hopened : t.openedAt = p.openedAt) (hclosed : t.closedAt = bar.timestamp) :
      Settled cost s p bar { s with position := none, trades := s.trades ++ [t] }

theorem settle_none (h : s.position = none) : runner.settle s bar = .ok s := by
  unfold ProposalReplayRunner.settle
  rw [h]

theorem settle_some (h : runner.settle s bar = .ok s') (hpos : s.position = some p) (hp : PositionAccounted runner.cost p) :
    Settled runner.cost s p bar s' := by
  unfold ProposalReplayRunner.settle at h
  rw [hpos] at h
  obtain ⟨out, hout, h⟩ := bind_eq_ok.mp h
  rcases advanceProposal_accounted hp hout with ⟨q, rfl, hq, hopened⟩ | ⟨t, rfl, ht, hopened, hclosed⟩
  · cases h
    exact .still hq hopened
  · cases h
    exact .closed hout ht hopened hclosed

/-- What a context does where no position is open: nothing is opened, or a position is and the bar applies to it. -/
inductive Entered (runner : ProposalReplayRunner Context) (s : ProposalReplayState) (context : Context) (bar : OHLCVBar) :
    ProposalReplayState → Prop where
  | nothing {s' : ProposalReplayState} (hnone : runner.opening context bar = .ok none) (hposition : s'.position = none)
      (htrades : s'.trades = s.trades) : Entered runner s context bar s'
  | opened {p : OpenProposalPosition} {s₁ s' : ProposalReplayState} (hopening : runner.opening context bar = .ok (some p))
      (hp : PositionAccounted runner.cost p) (hat : p.openedAt = bar.timestamp) (htrades : s₁.trades = s.trades)
      (hsettled : Settled runner.cost s₁ p bar s') : Entered runner s context bar s'

theorem enter_none (hpos : s.position = none) (h : runner.enter s context bar = .ok s') : Entered runner s context bar s' := by
  unfold ProposalReplayRunner.enter at h
  rw [hpos] at h
  dsimp only at h
  cases hproposal : runner.source.proposal context with
  | none =>
    rw [hproposal] at h
    cases h
    refine .nothing ?_ hpos rfl
    unfold ProposalReplayRunner.opening
    rw [hproposal]
  | some proposal =>
    rw [hproposal] at h
    dsimp only at h
    have hopening : runner.opening context bar =
        if proposal.expiresAt ≤ bar.timestamp then .ok none else runner.cost.openProposal proposal bar runner.mode := by
      unfold ProposalReplayRunner.opening
      rw [hproposal]
    split at h
    · rename_i hexpired
      cases h
      exact .nothing (hopening.trans (if_pos hexpired)) rfl rfl
    · rename_i hexpired
      rw [if_neg hexpired] at hopening
      obtain ⟨o, ho, h⟩ := bind_eq_ok.mp h
      cases o with
      | none =>
        cases h
        exact .nothing (hopening.trans ho) rfl rfl
      | some p =>
        obtain ⟨hp, hat⟩ := openProposal_accounted ho
        have hsettled := settle_some h rfl hp
        refine .opened (hopening.trans ho) hp hat ?_ hsettled
        rfl

theorem enter_some (hpos : s.position = some p) : runner.enter s context bar = .ok s := by
  unfold ProposalReplayRunner.enter
  rw [hpos]

/-! ### The accounts of a run -/

/-- The trades and the open position are accounted for. -/
structure StateAccounted (cost : ReplayCostModel) (s : ProposalReplayState) : Prop where
  trades : ∀ t ∈ s.trades, TradeAccounted cost t
  position : ∀ p, s.position = some p → PositionAccounted cost p

theorem Settled.accounted (h : Settled cost s p bar s') (hs : ∀ t ∈ s.trades, TradeAccounted cost t) : StateAccounted cost s' := by
  cases h with
  | still hq _ =>
    refine ⟨hs, fun q hq' => ?_⟩
    cases hq'
    exact hq
  | closed _ ht _ _ =>
    refine ⟨?_, fun q hq => nomatch hq⟩
    intro t' ht'
    rcases List.mem_append.mp ht' with ht' | ht'
    · exact hs t' ht'
    · rw [List.mem_singleton.mp ht']
      exact ht

/-- A step settles the open position, and enters where none is open then. -/
theorem step_cases (hs : StateAccounted runner.cost s) (h : runner.step s context bar = .ok s') :
    (s.position = none ∧ Entered runner s context bar s') ∨
      ∃ p s₁, s.position = some p ∧ Settled runner.cost s p bar s₁ ∧
        ((∃ q, s₁.position = some q ∧ s' = s₁) ∨ (s₁.position = none ∧ Entered runner s₁ context bar s')) := by
  unfold ProposalReplayRunner.step at h
  obtain ⟨s₁, hsettle, henter⟩ := bind_eq_ok.mp h
  cases hpos : s.position with
  | none =>
    rw [settle_none hpos] at hsettle
    cases hsettle
    exact Or.inl ⟨rfl, enter_none hpos henter⟩
  | some p =>
    refine Or.inr ⟨p, s₁, rfl, settle_some hsettle hpos (hs.position p hpos), ?_⟩
    cases hpos₁ : s₁.position with
    | none => exact Or.inr ⟨rfl, enter_none hpos₁ henter⟩
    | some q =>
      rw [enter_some hpos₁] at henter
      cases henter
      exact Or.inl ⟨q, rfl, rfl⟩

theorem Entered.accounted (h : Entered runner s context bar s') (hs : ∀ t ∈ s.trades, TradeAccounted runner.cost t) :
    StateAccounted runner.cost s' := by
  cases h with
  | nothing _ hposition htrades =>
    refine ⟨htrades ▸ hs, fun p hp => ?_⟩
    rw [hposition] at hp
    nomatch hp
  | opened _ _ _ htrades hsettled => exact hsettled.accounted (htrades ▸ hs)

theorem step_accounted (hs : StateAccounted runner.cost s) (h : runner.step s context bar = .ok s') :
    StateAccounted runner.cost s' := by
  rcases step_cases hs h with ⟨_, hentered⟩ | ⟨p, s₁, _, hsettled, ⟨_, _, rfl⟩ | ⟨_, hentered⟩⟩
  · exact hentered.accounted hs.trades
  · exact hsettled.accounted hs.trades
  · exact hentered.accounted (hsettled.accounted hs.trades).trades

theorem run_accounted {contexts : List Context}
    (hs : StateAccounted runner.cost s) (h : runner.run s last contexts bars = .ok (s', last')) : StateAccounted runner.cost s' := by
  induction contexts generalizing s last bars with
  | nil =>
    cases bars with
    | nil =>
      cases h
      exact hs
    | cons bar bars => nomatch h
  | cons context contexts ih =>
    cases bars with
    | nil => nomatch h
    | cons bar bars =>
      obtain ⟨s₁, hstep, hrest⟩ := bind_eq_ok.mp h
      exact ih (step_accounted hs hstep) hrest

theorem finish_some (hpos : s.position = some p) (bar : OHLCVBar) : runner.finish s (some bar) =
    s.trades ++ [runner.cost.closeProposal p bar.timestamp bar.close "end_of_window"] := by
  unfold ProposalReplayRunner.finish
  rw [hpos]

theorem finish_none (hpos : s.position = none) (lastBar : Option OHLCVBar) : runner.finish s lastBar = s.trades := by
  unfold ProposalReplayRunner.finish
  rw [hpos]

theorem finish_accounted (hs : StateAccounted runner.cost s) (lastBar : Option OHLCVBar) :
    ∀ t ∈ runner.finish s lastBar, TradeAccounted runner.cost t := by
  intro t ht
  cases hpos : s.position with
  | none =>
    rw [finish_none hpos] at ht
    exact hs.trades t ht
  | some p =>
    cases lastBar with
    | none =>
      unfold ProposalReplayRunner.finish at ht
      rw [hpos] at ht
      exact hs.trades t ht
    | some bar =>
      rw [finish_some hpos] at ht
      rcases List.mem_append.mp ht with ht | ht
      · exact hs.trades t ht
      · rw [List.mem_singleton.mp ht]
        exact (hs.position p hpos).close _ _ _

/-! ### Trades one after the other -/

/-- Every trade so far is after the one before it, and so will be that of the open position. -/
structure Apart (s : ProposalReplayState) (clock : ℤ) : Prop where
  chain : s.trades.IsChain ProposalReplayTrade.After
  closed_le : ∀ t ∈ s.trades, t.closedAt ≤ clock
  opened : ∀ p, s.position = some p → ∀ t ∈ s.trades.getLast?, t.closedAt < p.openedAt

theorem isChain_concat {trades : List ProposalReplayTrade} {t : ProposalReplayTrade}
    (h : trades.IsChain ProposalReplayTrade.After) (hlast : ∀ t' ∈ trades.getLast?, t'.closedAt < t.openedAt) :
    (trades ++ [t]).IsChain ProposalReplayTrade.After := by
  rw [List.isChain_append]
  refine ⟨h, List.isChain_singleton t, fun t' ht' t'' ht'' => ?_⟩
  cases ht''
  exact hlast t' ht'

theorem Settled.apart (h : Settled cost s p bar s') (hchain : s.trades.IsChain ProposalReplayTrade.After)
    (hle : ∀ t ∈ s.trades, t.closedAt ≤ bar.timestamp) (hp : ∀ t ∈ s.trades.getLast?, t.closedAt < p.openedAt) :
    Apart s' bar.timestamp := by
  cases h with
  | still _ hopened =>
    refine ⟨hchain, hle, fun q hq t ht => ?_⟩
    cases hq
    rw [hopened]
    exact hp t ht
  | closed _ _ hopened hclosed =>
    refine ⟨isChain_concat hchain fun t' ht' => hopened ▸ hp t' ht', fun t ht => ?_, fun q hq => nomatch hq⟩
    rcases List.mem_append.mp ht with ht | ht
    · exact hle t ht
    · rw [List.mem_singleton.mp ht, hclosed]

/-- Entering at a bar after every trade. -/
theorem Entered.apart {clock : ℤ} (h : Entered runner s context bar s') (hs : Apart s clock) (hlt : clock < bar.timestamp) :
    Apart s' bar.timestamp := by
  have hle : ∀ t ∈ s.trades, t.closedAt < bar.timestamp := fun t ht => (hs.closed_le t ht).trans_lt hlt
  cases h with
  | nothing _ hposition htrades =>
    refine ⟨htrades ▸ hs.chain, fun t ht => (hle t (htrades ▸ ht)).le, fun p hp => ?_⟩
    rw [hposition] at hp
    nomatch hp
  | opened _ _ hat htrades hsettled =>
    refine hsettled.apart (htrades ▸ hs.chain) (fun t ht => (hle t (htrades ▸ ht)).le) fun t ht => ?_
    rw [htrades] at ht
    rw [hat]
    exact hle t (List.mem_of_getLast? ht)

/-- A step that meets the condition keeps the trades apart. -/
theorem step_apart {clock : ℤ} (hacc : StateAccounted runner.cost s) (hs : Apart s clock) (hlt : clock < bar.timestamp)
    (happart : runner.OpensApart s context bar) (h : runner.step s context bar = .ok s') : Apart s' bar.timestamp := by
  have hle : ∀ t ∈ s.trades, t.closedAt ≤ bar.timestamp := fun t ht => (hs.closed_le t ht).trans hlt.le
  rcases step_cases hacc h with ⟨_, hentered⟩ | ⟨p, s₁, hpos, hsettled, ⟨_, _, rfl⟩ | ⟨hnone, hentered⟩⟩
  · exact hentered.apart hs hlt
  · exact hsettled.apart hs.chain hle (hs.opened p hpos)
  · have hs₁ := hsettled.apart hs.chain hle (hs.opened p hpos)
    cases hsettled with
    | still _ _ => nomatch hnone
    | closed hadvance _ _ _ =>
      -- the bar closed the position, so the context opens nothing
      cases hentered with
      | nothing _ hposition htrades =>
        refine ⟨htrades ▸ hs₁.chain, htrades ▸ hs₁.closed_le, fun q hq => ?_⟩
        rw [hposition] at hq
        nomatch hq
      | opened hopening _ _ _ _ =>
        rw [happart p _ hpos hadvance] at hopening
        nomatch hopening

theorem run_apart {contexts : List Context} {bars : List OHLCVBar} {last last' : Option OHLCVBar} {clock : ℤ}
    (hacc : StateAccounted runner.cost s) (hs : Apart s clock)
    (hbars : (bars.map (·.timestamp)).Pairwise (· < ·)) (hlt : ∀ bar ∈ bars, clock < bar.timestamp)
    (heach : runner.eachStep runner.OpensApart s contexts bars) (h : runner.run s last contexts bars = .ok (s', last')) :
    ∃ clock', Apart s' clock' := by
  induction contexts generalizing s last bars clock with
  | nil =>
    cases bars with
    | nil =>
      cases h
      exact ⟨clock, hs⟩
    | cons bar bars => nomatch h
  | cons context contexts ih =>
    cases bars with
    | nil => nomatch h
    | cons bar bars =>
      obtain ⟨s₁, hstep, hrest⟩ := bind_eq_ok.mp h
      rw [List.map_cons, List.pairwise_cons] at hbars
      rw [List.forall_mem_cons] at hlt
      exact ih (step_accounted hacc hstep) (step_apart hacc hs hlt.1 heach.1 hstep) hbars.2
        (fun b hb => hbars.1 _ (List.mem_map_of_mem hb)) (heach.2 s₁ hstep) hrest

theorem finish_apart {clock : ℤ} (hs : Apart s clock) (lastBar : Option OHLCVBar) :
    (runner.finish s lastBar).IsChain ProposalReplayTrade.After := by
  cases hpos : s.position with
  | none =>
    rw [finish_none hpos]
    exact hs.chain
  | some p =>
    cases lastBar with
    | none =>
      unfold ProposalReplayRunner.finish
      rw [hpos]
      exact hs.chain
    | some bar =>
      rw [finish_some hpos]
      exact isChain_concat hs.chain (hs.opened p hpos)

/-! ### Where two trades meet -/

/-- What a run adds to the trades of a state with an open position begins with the trade of that position, or it is still open. -/
def BeginsWith (openedAt : ℤ) (more : List ProposalReplayTrade) (s : ProposalReplayState) : Prop :=
  (∃ t rest, more = t :: rest ∧ t.openedAt = openedAt) ∨ more = [] ∧ ∃ q, s.position = some q ∧ q.openedAt = openedAt

theorem Settled.begins (h : Settled cost s p bar s') : ∃ more, s'.trades = s.trades ++ more ∧ BeginsWith p.openedAt more s' := by
  cases h with
  | still _ hopened => exact ⟨[], (List.append_nil _).symm, Or.inr ⟨rfl, _, rfl, hopened⟩⟩
  | closed _ _ hopened _ => exact ⟨[_], rfl, Or.inl ⟨_, [], rfl, hopened⟩⟩

theorem Entered.extends (h : Entered runner s context bar s') : ∃ more, s'.trades = s.trades ++ more := by
  cases h with
  | nothing _ _ htrades => exact ⟨[], by rw [htrades, List.append_nil]⟩
  | opened _ _ _ htrades hsettled =>
    obtain ⟨more, hmore, _⟩ := hsettled.begins
    exact ⟨more, by rw [hmore, htrades]⟩

theorem BeginsWith.append {openedAt : ℤ} {more later : List ProposalReplayTrade} (h : BeginsWith openedAt more s)
    (hlater : ∀ q, s.position = some q → q.openedAt = openedAt → BeginsWith openedAt later s') :
    BeginsWith openedAt (more ++ later) s' := by
  rcases h with ⟨t, rest, rfl, ht⟩ | ⟨rfl, q, hq, hopened⟩
  · exact Or.inl ⟨t, rest ++ later, rfl, ht⟩
  · exact hlater q hq hopened

theorem step_extends (hacc : StateAccounted runner.cost s) (h : runner.step s context bar = .ok s') :
    ∃ more, s'.trades = s.trades ++ more := by
  rcases step_cases hacc h with ⟨_, hentered⟩ | ⟨p, s₁, _, hsettled, ⟨_, _, rfl⟩ | ⟨_, hentered⟩⟩
  · exact hentered.extends
  · obtain ⟨more, hmore, _⟩ := hsettled.begins
    exact ⟨more, hmore⟩
  · obtain ⟨more, hmore, _⟩ := hsettled.begins
    obtain ⟨later, hlater⟩ := hentered.extends
    exact ⟨more ++ later, by rw [hlater, hmore, List.append_assoc]⟩

theorem step_begins (hacc : StateAccounted runner.cost s) (hpos : s.position = some p)
    (h : runner.step s context bar = .ok s') : ∃ more, s'.trades = s.trades ++ more ∧ BeginsWith p.openedAt more s' := by
  rcases step_cases hacc h with ⟨hnone, _⟩ | ⟨p', s₁, hpos', hsettled, hrest⟩
  · rw [hpos] at hnone
    nomatch hnone
  rw [hpos, Option.some.injEq] at hpos'
  subst hpos'
  obtain ⟨more, hmore, hbegins⟩ := hsettled.begins
  rcases hrest with ⟨_, _, rfl⟩ | ⟨hnone, hentered⟩
  · exact ⟨more, hmore, hbegins⟩
  · obtain ⟨later, hlater⟩ := hentered.extends
    refine ⟨more ++ later, by rw [hlater, hmore, List.append_assoc], hbegins.append fun q hq => ?_⟩
    rw [hnone] at hq
    nomatch hq

theorem run_extends {contexts : List Context} {bars : List OHLCVBar} {last last' : Option OHLCVBar}
    (hacc : StateAccounted runner.cost s) (h : runner.run s last contexts bars = .ok (s', last')) :
    ∃ more, s'.trades = s.trades ++ more := by
  induction contexts generalizing s last bars with
  | nil =>
    cases bars with
    | nil =>
      cases h
      exact ⟨[], (List.append_nil _).symm⟩
    | cons bar bars => nomatch h
  | cons context contexts ih =>
    cases bars with
    | nil => nomatch h
    | cons bar bars =>
      obtain ⟨s₁, hstep, hrest⟩ := bind_eq_ok.mp h
      obtain ⟨more, hmore⟩ := step_extends hacc hstep
      obtain ⟨later, hlater⟩ := ih (step_accounted hacc hstep) hrest
      exact ⟨more ++ later, by rw [hlater, hmore, List.append_assoc]⟩

theorem run_begins {contexts : List Context} {bars : List OHLCVBar} {last last' : Option OHLCVBar}
    (hacc : StateAccounted runner.cost s) (hpos : s.position = some p)
    (h : runner.run s last contexts bars = .ok (s', last')) :
    ∃ more, s'.trades = s.trades ++ more ∧ BeginsWith p.openedAt more s' := by
  induction contexts generalizing s last bars p with
  | nil =>
    cases bars with
    | nil =>
      cases h
      exact ⟨[], (List.append_nil _).symm, Or.inr ⟨rfl, p, hpos, rfl⟩⟩
    | cons bar bars => nomatch h
  | cons context contexts ih =>
    cases bars with
    | nil => nomatch h
    | cons bar bars =>
      obtain ⟨s₁, hstep, hrest⟩ := bind_eq_ok.mp h
      obtain ⟨more, hmore, hbegins⟩ := step_begins hacc hpos hstep
      obtain ⟨later, hlater⟩ := run_extends (step_accounted hacc hstep) hrest
      refine ⟨more ++ later, by rw [hlater, hmore, List.append_assoc], hbegins.append fun q hq hopened => ?_⟩
      obtain ⟨later', hlater', hbegins'⟩ := ih (step_accounted hacc hstep) hq hrest
      rw [hlater, List.append_cancel_left_eq] at hlater'
      exact hlater' ▸ hopened ▸ hbegins'

theorem run_last {contexts : List Context} (hlast : last.isSome)
    (h : runner.run s last contexts bars = .ok (s', last')) : last'.isSome := by
  induction contexts generalizing s last bars with
  | nil =>
    cases bars with
    | nil =>
      cases h
      exact hlast
    | cons bar bars => nomatch h
  | cons context contexts ih =>
    cases bars with
    | nil => nomatch h
    | cons bar bars =>
      obtain ⟨s₁, _, hrest⟩ := bind_eq_ok.mp h
      exact ih rfl hrest

/-- With a bar to close it at, the position that is still open becomes the trade. -/
theorem finish_begins (runner : ProposalReplayRunner Context) {openedAt : ℤ} {before more : List ProposalReplayTrade} {last : Option OHLCVBar} (hlast : last.isSome)
    (htrades : s.trades = before ++ more) (h : BeginsWith openedAt more s) :
    ∃ t rest, runner.finish s last = before ++ t :: rest ∧ t.openedAt = openedAt := by
  obtain ⟨bar, rfl⟩ := Option.isSome_iff_exists.mp hlast
  rcases h with ⟨t, rest, rfl, ht⟩ | ⟨rfl, q, hq, hopened⟩
  · cases hpos : s.position with
    | none => exact ⟨t, rest, by rw [finish_none hpos, htrades], ht⟩
    | some q => exact ⟨t, rest ++ _, by rw [finish_some hpos, htrades, List.append_assoc]; rfl, ht⟩
  · exact ⟨_, [], by rw [finish_some hq, htrades, List.append_nil], hopened⟩

/-- A run whose trades are apart opened none at the bar that closed another. -/
theorem eachStep_of_chain {contexts : List Context}
    (hacc : StateAccounted runner.cost s) (h : runner.run s last contexts bars = .ok (s', last'))
    (hchain : (runner.finish s' last').IsChain ProposalReplayTrade.After) : runner.eachStep runner.OpensApart s contexts bars := by
  induction contexts generalizing s last bars with
  | nil => cases bars <;> exact trivial
  | cons context contexts ih =>
    cases bars with
    | nil => exact trivial
    | cons bar bars =>
      obtain ⟨s₁, hstep, hrest⟩ := bind_eq_ok.mp h
      refine ⟨fun p t hpos hadvance => ?_, fun s₁' hstep' => ?_⟩
      · have hsettle : runner.settle s bar = .ok { s with position := none, trades := s.trades ++ [t] } := by
          unfold ProposalReplayRunner.settle
          rw [hpos]
          exact bind_eq_ok.mpr ⟨_, hadvance, rfl⟩
        obtain ⟨s₂, hs₂, henter⟩ := bind_eq_ok.mp hstep
        rw [hsettle] at hs₂
        cases hs₂
        cases enter_none rfl henter with
        | nothing hnone _ _ => exact hnone
        | @opened p' s₃ _ _ _ hat htrades hsettled =>
          -- the trade of the position opened at the bar follows the one closed in it
          exfalso
          obtain ⟨more, hmore, hbegins⟩ := hsettled.begins
          obtain ⟨later, hlater⟩ := run_extends (step_accounted hacc hstep) hrest
          have hbegins' : BeginsWith p'.openedAt (more ++ later) s' := hbegins.append fun q hq hopened => by
            obtain ⟨later', hlater', hbegins'⟩ := run_begins (step_accounted hacc hstep) hq hrest
            rw [hlater, List.append_cancel_left_eq] at hlater'
            exact hlater' ▸ hopened ▸ hbegins'
          have hall : s'.trades = (s.trades ++ [t]) ++ (more ++ later) := by
            rw [hlater, hmore, htrades, List.append_assoc]
          obtain ⟨t', rest, hfinish, hopened⟩ := finish_begins runner (run_last rfl hrest) hall hbegins'
          rw [hfinish, List.append_assoc, List.isChain_append] at hchain
          have hafter := (List.isChain_cons_cons.mp hchain.2.1).1
          unfold ProposalReplayTrade.After at hafter
          rcases advanceProposal_accounted (hacc.position p hpos) hadvance with ⟨_, h, _⟩ | ⟨_, h, _, _, hclosed⟩
          · nomatch h
          · cases h
            rw [hopened, hat, hclosed] at hafter
            exact lt_irrefl _ hafter
      · rw [hstep] at hstep'
        cases hstep'
        exact ih (step_accounted hacc hstep) hrest

end ProposalReplayAux

open ProposalReplayAux Loops in
/-- Every replay accounts for its trades; and no two of them overlap exactly when no bar that closes the open position opens another
one. -/
theorem proposal_replay {Context : Type} {runner : ProposalReplayRunner Context} {contexts : List Context} {bars : List OHLCVBar}
    {trades : List ProposalReplayTrade} (hbars : (bars.map (·.timestamp)).Pairwise (· < ·))
    (h : runner.replay contexts bars = .ok trades) :
    (∀ t ∈ trades, TradeAccounted runner.cost t) ∧
      (trades.IsChain ProposalReplayTrade.After ↔ runner.eachStep runner.OpensApart {} contexts bars) := by
  obtain ⟨⟨s', last'⟩, hrun, hfinish⟩ := bind_eq_ok.mp h
  cases hfinish
  have hacc : StateAccounted runner.cost {} := ⟨fun t ht => absurd ht List.not_mem_nil, fun p hp => nomatch hp⟩
  refine ⟨finish_accounted (run_accounted hacc hrun) last', eachStep_of_chain hacc hrun, fun heach => ?_⟩
  -- an instant before every bar
  obtain ⟨clock, hclock⟩ : ∃ clock : ℤ, ∀ bar ∈ bars, clock < bar.timestamp := by
    cases bars with
    | nil => exact ⟨0, fun bar hbar => absurd hbar List.not_mem_nil⟩
    | cons bar bars =>
      rw [List.map_cons, List.pairwise_cons] at hbars
      refine ⟨bar.timestamp - 1, ?_⟩
      rw [List.forall_mem_cons]
      refine ⟨by omega, fun b hb => ?_⟩
      have := hbars.1 _ (List.mem_map_of_mem hb)
      omega
  have hstart : Apart {} clock := ⟨List.isChain_nil, fun t ht => absurd ht List.not_mem_nil, fun p hp => nomatch hp⟩
  obtain ⟨clock', hapart⟩ := run_apart hacc hstart hbars hclock heach hrun
  exact finish_apart hapart last'

/-- A long from 100 with its stop at 95 and one target at 110. -/
def sampleLong : StrategyProposal where
  proposalId := "proposal-1"
  strategyId := "breakout"
  symbol := "BTC/USDT"
  side := .long
  signalBarTime := 0
  expiresAt := 100
  referencePrice := 100
  maxPriceDriftBps := 100
  stopPrice := 95
  targets := [⟨"T1", 110, 1⟩]
  reference_pos := SampleLevels.hundred_pos
  drift_nonneg := by decide +kernel
  stop_pos := SampleLevels.ninetyFive_pos
  target_bounds := by decide +kernel
  expires := by decide
  allocated := by decide +kernel
  stop_behind := SampleLevels.long_stop_behind
  targets_ahead := by decide +kernel

/-- The default costs, and a generator that proposes the long in the contexts that are `true`. -/
def sampleRunner : ProposalReplayRunner Bool where
  cost := { costs_nonneg := by decide +kernel, partial_pos := by decide +kernel, partial_le := by decide +kernel,
            interval_pos := by decide +kernel }
  source := .generator fun signal => if signal then some sampleLong else none

/-- A bar inside the range of the long, and one that falls through its stop. -/
def quietBar : OHLCVBar := { timestamp := 1, openPrice := 100, high := 105, low := 99, close := 101, volume := 1 }
def fallingBar : OHLCVBar := { timestamp := 2, openPrice := 201 / 2, high := 101, low := 94, close := 96, volume := 1 }

theorem proposal_replay_once : ∃ trades, sampleRunner.replay [true, false] [quietBar, fallingBar] = .ok trades ∧
    (∀ t ∈ trades, TradeAccounted sampleRunner.cost t) ∧ (trades.IsChain ProposalReplayTrade.After ↔
      sampleRunner.eachStep sampleRunner.OpensApart {} [true, false] [quietBar, fallingBar]) := by
  obtain ⟨trades, h⟩ : ∃ trades, sampleRunner.replay [true, false] [quietBar, fallingBar] = .ok trades :=
    Option.isSome_iff_exists.mp (show (sampleRunner.replay [true, false] [quietBar, fallingBar]).toOption.isSome by decide +kernel)
      |>.imp fun trades h => Loops.toOption_eq_some.mp h
  exact ⟨trades, h, proposal_replay (by decide) h⟩

/-- The bar that stops the first trade opens a second one, at an open that came before the stop. -/
theorem proposal_replay_sameBar :
    (sampleRunner.replay [true, true] [quietBar, fallingBar]).toOption.map (fun trades => trades.map fun t => (t.openedAt, t.closedAt)) =
      some [(1, 2), (2, 2)] ∧ ¬(2 : ℤ) < 2 := by
  decide +kernel

end TradingPlatform
