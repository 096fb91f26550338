import TradingPlatform.Engine.ProposalReplay

/-!
# The candidate selector

`strategy_library/ensemble/selector_v2.py` selects one proposal of those that have not expired, or none where the best of the two
sides are too close. Scores are exact.
-/

namespace TradingPlatform

/-- `StrategyProposal`, with what its score is made of. -/
structure RatedProposal extends StrategyProposal where
  regimeFit : ℚ
  setupQuality : ℚ
  costAdjustedRr : ℚ
  confidenceComponents : List (String × ℚ)
  regimeFit_mem : 0 ≤ regimeFit ∧ regimeFit ≤ 1
  setupQuality_mem : 0 ≤ setupQuality ∧ setupQuality ≤ 1
  costAdjustedRr_pos : 0 < costAdjustedRr

/-- The status of a selection. -/
inductive SelectionStatus where
  | empty | conflict | noTrade | selected
  deriving DecidableEq, Repr

/-- The text of a status. -/
def SelectionStatus.value : SelectionStatus → String
  | .empty => "EMPTY"
  | .conflict => "CONFLICT"
  | .noTrade => "NO_TRADE"
  | .selected => "SELECTED"

/-- `SelectionResult`. -/
structure SelectionResult where
  status : SelectionStatus
  selected : Option RatedProposal
  supportingProposalIds : List String
  rejectedReasons : String → Option String
  selectedScore : Option ℚ := none

/-- The constraint of `selected_score`. -/
def SelectionResult.validated (result : SelectionResult) : Except PyError SelectionResult :=
  match result.selectedScore with
  | none => .ok result
  | some score => if 0 ≤ score ∧ score ≤ 1 then .ok result else .error (.valueError "selected_score")

/-- `CandidateSelectorV2`. -/
structure CandidateSelectorV2 where
  conflictMargin : ℚ := 8 / 100
  minimumSelectedScore : ℚ := 58 / 100

namespace RatedProposal

/-- `_score`. -/
def score (p : RatedProposal) : ℚ :=
  let confidenceScore : ℚ :=
    if p.confidenceComponents = [] then 0
    else (p.confidenceComponents.map Prod.snd).sum / p.confidenceComponents.length
  min 1 ((p.regimeFit + p.setupQuality + min 1 (p.costAdjustedRr / 2) + confidenceScore) / 4)

def active (now : ℤ) (p : RatedProposal) : Bool := decide (now < p.expiresAt)

/-- The order of the ranking, by descending score. -/
def ranksBefore (p q : RatedProposal) : Prop := q.score ≤ p.score

instance : DecidableRel ranksBefore := fun p q => inferInstanceAs (Decidable (q.score ≤ p.score))
instance : Std.Total ranksBefore := ⟨fun p q => le_total q.score p.score⟩
instance : IsTrans RatedProposal ranksBefore := ⟨fun _ _ _ hpq hqr => le_trans hqr hpq⟩

end RatedProposal

/-- `rejected.update`, with one reason for some proposals. -/
def reject (rejected : String → Option String) (reason : String) (proposals : List RatedProposal) : String → Option String :=
  proposals.foldl (fun rejected p => Function.update rejected p.proposalId (some reason)) rejected

/-- `by_side[side]`. -/
def bySide (ranked : List RatedProposal) (side : Direction) : List RatedProposal := ranked.filter fun p => decide (p.side = side)

namespace CandidateSelectorV2

variable (selector : CandidateSelectorV2)

/-- The best proposals of the two sides are closer than the margin. -/
def inConflict (ranked : List RatedProposal) : Bool :=
  match bySide ranked .long, bySide ranked .short with
  | long :: _, short :: _ => decide (|long.score - short.score| < selector.conflictMargin)
  | _, _ => false

/-- The result of `select` before its validation, from the proposals that are active and the reasons of the expired ones. -/
def unvalidated (rejected : String → Option String) (active : List RatedProposal) : SelectionResult :=
  match active.insertionSort RatedProposal.ranksBefore with
  | [] => { status := .empty, selected := none, supportingProposalIds := [], rejectedReasons := rejected }
  | winner :: rest =>
    let ranked := winner :: rest
    if selector.inConflict ranked then
      { status := .conflict, selected := none, supportingProposalIds := [],
        rejectedReasons := reject rejected "opposing_direction_conflict" active }
    else if winner.score < selector.minimumSelectedScore then
      { status := .noTrade, selected := none, supportingProposalIds := [],
        rejectedReasons := reject rejected "selected_score_below_threshold" active, selectedScore := some winner.score }
    else
      { status := .selected, selected := some winner,
        supportingProposalIds := (bySide ranked winner.side).map fun p => p.proposalId,
        rejectedReasons := reject rejected "opposing_direction_lost" (ranked.filter fun p => decide (p.side ≠ winner.side)),
        selectedScore := some winner.score }

/-- `select`. -/
def select (proposals : List RatedProposal) (now : ℤ) : Except PyError SelectionResult :=
  (selector.unvalidated (reject (fun _ => none) "expired" (proposals.filter fun p => !p.active now))
    (proposals.filter (RatedProposal.active now))).validated

end CandidateSelectorV2

end TradingPlatform
