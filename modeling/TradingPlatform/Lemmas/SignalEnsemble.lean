import Mathlib.Algebra.Order.BigOperators.Group.List
import Mathlib.Algebra.Order.Field.Basic
import Mathlib.Tactic.Linarith
import Mathlib.Tactic.Ring
import TradingPlatform.Engine.SignalEnsemble
import TradingPlatform.Lib.Lists

/-!
# Shares of an ensemble

The share of a signal in its side, which signals may vote, and what changes the shares.
-/

namespace TradingPlatform

/-!
## The shares of the signals

The correlation filter quarters the weight of a signal once for every comparable signal that is stronger, and once for every comparable
one of its own strength that precedes it. What is left, times the confidence, is the share of the signal in its side.
-/

namespace SignalShares

open SignalEnsembleService

section Shares

variable (pearson : List ℚ → List ℚ → ℚ) (threshold : ℚ) (minHistory : ℤ)

/-- A comparable signal is stronger. -/
def Stronger (s k : CandidateSignalSeries) : Prop := comparable pearson threshold minHistory s k = true ∧ filterScore s < filterScore k

/-- A comparable signal is as strong. -/
def Tied (s k : CandidateSignalSeries) : Prop := comparable pearson threshold minHistory s k = true ∧ filterScore s = filterScore k

instance : DecidableRel (Stronger pearson threshold minHistory) := fun _ _ => inferInstanceAs (Decidable (_ ∧ _))

instance : DecidableRel (Tied pearson threshold minHistory) := fun _ _ => inferInstanceAs (Decidable (_ ∧ _))

/-- The confidence a vote counts with. -/
def counted (confidence : Option ℚ) : ℚ :=
  match confidence with
  | none => 1
  | some c => if c = 0 then 1 else c

/-- The signals of a list that precede a signal. -/
def precede (l : List CandidateSignalSeries) (s : CandidateSignalSeries) : List CandidateSignalSeries :=
  l.takeWhile fun k => decide (k.strategyId ≠ s.strategyId)

/-- The comparisons that a signal loses: those with stronger signals, and those with signals as strong that precede it. -/
def losses (l : List CandidateSignalSeries) (s : CandidateSignalSeries) : ℕ :=
  l.countP (fun k => decide (Stronger pearson threshold minHistory s k)) +
    (precede l s).countP fun k => decide (Tied pearson threshold minHistory s k)

/-- The share of a signal at some confidence. -/
def shareAt (l : List CandidateSignalSeries) (s : CandidateSignalSeries) (confidence : ℚ) : ℚ :=
  max s.weight 0 * confidence * (1 / 4) ^ losses pearson threshold minHistory l s

/-- The share of a signal. -/
def share (l : List CandidateSignalSeries) (s : CandidateSignalSeries) : ℚ :=
  shareAt pearson threshold minHistory l s (counted s.confidence)

/-- The share of a signal that no signal of its strength precedes. -/
def standing (l : List CandidateSignalSeries) (s : CandidateSignalSeries) : ℚ :=
  max s.weight 0 * counted s.confidence * (1 / 4) ^ l.countP fun k => decide (Stronger pearson threshold minHistory s k)

/-- The shares of a side. -/
def sideShare (l : List CandidateSignalSeries) (side : Direction) : ℚ :=
  ((l.filter fun s => decide (s.direction = side)).map (share pearson threshold minHistory l)).sum

end Shares

/-! ## The weights of the filter -/

section Weights

variable {pearson : List ℚ → List ℚ → ℚ} {threshold : ℚ} {minHistory : ℤ} {l : List CandidateSignalSeries} {s : CandidateSignalSeries}

theorem get_quarter (id strategyId : String) (weights : List (String × ℚ)) :
    Json.get id (quarter strategyId weights) = (Json.get id weights).map fun w => w * (1 / 4) ^ (if strategyId = id then 1 else 0) := by
  induction weights with
  | nil => rfl
  | cons e rest ih =>
    obtain ⟨k, w⟩ := e
    change Json.get id ((if k = strategyId then (k, w * (1 / 4)) else (k, w)) :: quarter strategyId rest) = _
    by_cases hk : k = id
    · subst hk
      by_cases hid : k = strategyId
      · rw [if_pos hid, if_pos hid.symm]
        simp [Json.get_cons]
      · rw [if_neg hid, if_neg (fun h => hid h.symm)]
        simp [Json.get_cons]
    · rw [Json.get_cons id k w rest, if_neg hk, ← ih]
      split_ifs
      · rw [Json.get_cons, if_neg hk]
      · rw [Json.get_cons, if_neg hk]

/-- The comparison of two signals that a signal loses. -/
def loss (pearson : List ℚ → List ℚ → ℚ) (threshold : ℚ) (minHistory : ℤ) (id : String) (left right : CandidateSignalSeries) : ℕ :=
  if comparable pearson threshold minHistory left right = true ∧ (weaker left right).strategyId = id then 1 else 0

theorem get_compareWith (id : String) (left right : CandidateSignalSeries) (weights : List (String × ℚ)) :
    Json.get id (compareWith pearson threshold minHistory left weights right) =
      (Json.get id weights).map fun w => w * (1 / 4) ^ loss pearson threshold minHistory id left right := by
  unfold compareWith loss
  by_cases hcomparable : comparable pearson threshold minHistory left right = true
  · rw [if_pos hcomparable, get_quarter]
    simp [hcomparable]
  · rw [if_neg hcomparable]
    simp [hcomparable]

theorem get_foldl_compareWith (id : String) (left : CandidateSignalSeries) (rest : List CandidateSignalSeries) (weights : List (String × ℚ)) :
    Json.get id (rest.foldl (compareWith pearson threshold minHistory left) weights) =
      (Json.get id weights).map fun w => w * (1 / 4) ^ (rest.map (loss pearson threshold minHistory id left)).sum := by
  induction rest generalizing weights with
  | nil => simp
  | cons right rest ih =>
    rw [List.foldl_cons, ih, get_compareWith, Option.map_map, List.map_cons, List.sum_cons]
    congr 1
    funext w
    rw [Function.comp_apply, pow_add]
    ring

/-- A signal's weight is quartered once for every comparison that it loses. -/
theorem get_compareAll (id : String) (l : List CandidateSignalSeries) (weights : List (String × ℚ)) :
    Json.get id (compareAll pearson threshold minHistory weights l) =
      (Json.get id weights).map fun w => w * (1 / 4) ^ Pairs.pairSum (loss pearson threshold minHistory id) l := by
  induction l generalizing weights with
  | nil => simp [compareAll]
  | cons left rest ih =>
    rw [compareAll, ih, get_foldl_compareWith, Option.map_map, Pairs.pairSum_cons]
    congr 1
    funext w
    rw [Function.comp_apply, pow_add]
    ring

theorem get_initialWeights (hnodup : (l.map CandidateSignalSeries.strategyId).Nodup) (hs : s ∈ l) :
    Json.get s.strategyId (initialWeights l) = some s.weight := by
  induction l using List.reverseRecOn with
  | nil => nomatch hs
  | append_singleton l a ih =>
    have happend : initialWeights (l ++ [a]) = Json.set a.strategyId a.weight (initialWeights l) := by simp [initialWeights]
    rw [List.map_append, List.map_singleton] at hnodup
    obtain ⟨hnodup', -, hdisjoint⟩ := List.nodup_append.mp hnodup
    rw [happend]
    rcases List.mem_append.mp hs with hs | hs
    · have hne : s.strategyId ≠ a.strategyId :=
        hdisjoint _ (List.mem_map_of_mem hs) _ (List.mem_singleton_self _)
      rw [Json.get_set_ne hne, ih hnodup' hs]
    · rw [List.mem_singleton.mp hs, Json.get_set_self]

/-! ## The comparisons a signal loses -/

theorem filterScore_weaker_right (left right : CandidateSignalSeries) (hne : left.strategyId ≠ right.strategyId) :
    (weaker left right).strategyId = right.strategyId ↔ filterScore right ≤ filterScore left := by
  unfold weaker
  split_ifs with hle
  · exact ⟨fun _ => hle, fun _ => rfl⟩
  · exact ⟨fun h => absurd h hne, fun h => absurd h hle⟩

theorem filterScore_weaker_left (left right : CandidateSignalSeries) (hne : left.strategyId ≠ right.strategyId) :
    (weaker left right).strategyId = left.strategyId ↔ filterScore left < filterScore right := by
  unfold weaker
  split_ifs with hle
  · exact ⟨fun h => absurd h.symm hne, fun h => absurd hle (not_le.mpr h)⟩
  · exact ⟨fun _ => not_le.mp hle, fun _ => rfl⟩

theorem weaker_other {left right : CandidateSignalSeries} {id : String} (hleft : left.strategyId ≠ id) (hright : right.strategyId ≠ id) :
    loss pearson threshold minHistory id left right = 0 := by
  refine if_neg fun h => ?_
  have hid := h.2
  unfold weaker at hid
  split_ifs at hid
  · exact hright hid
  · exact hleft hid

theorem comparable_comm (hsymmetric : ∀ a b, pearson a b = pearson b a) (left right : CandidateSignalSeries) :
    comparable pearson threshold minHistory left right = comparable pearson threshold minHistory right left := by
  unfold comparable
  rw [hsymmetric right.series left.series]
  exact decide_eq_decide.mpr ⟨fun h => ⟨h.2.1, h.1, h.2.2⟩, fun h => ⟨h.2.1, h.1, h.2.2⟩⟩

theorem Tied.symm (hsymmetric : ∀ a b, pearson a b = pearson b a) {a b : CandidateSignalSeries} (h : Tied pearson threshold minHistory a b) :
    Tied pearson threshold minHistory b a :=
  ⟨(comparable_comm hsymmetric b a).trans h.1, h.2.symm⟩

/-- What precedes a signal of distinct ones. -/
theorem precede_around {before behind : List CandidateSignalSeries}
    (hnodup : ((before ++ s :: behind).map CandidateSignalSeries.strategyId).Nodup) : precede (before ++ s :: behind) s = before := by
  unfold precede
  induction before with
  | nil => simp
  | cons a before ih =>
    rw [List.cons_append, List.map_cons, List.nodup_cons] at hnodup
    have hne : a.strategyId ≠ s.strategyId := by
      intro heq
      exact hnodup.1 (heq ▸ List.mem_map_of_mem (List.mem_append_right _ List.mem_cons_self))
    rw [List.cons_append, List.takeWhile_cons_of_pos (by simpa using hne), ih hnodup.2]

theorem ne_of_around {before behind : List CandidateSignalSeries}
    (hnodup : ((before ++ s :: behind).map CandidateSignalSeries.strategyId).Nodup) {k : CandidateSignalSeries} (hk : k ∈ before ++ behind) :
    k.strategyId ≠ s.strategyId := by
  have hperm : ((before ++ s :: behind).map CandidateSignalSeries.strategyId).Perm ((s :: (before ++ behind)).map CandidateSignalSeries.strategyId) :=
    List.perm_middle.map _
  have hnodup' := hperm.nodup_iff.mp hnodup
  rw [List.map_cons, List.nodup_cons] at hnodup'
  intro heq
  exact hnodup'.1 (heq ▸ List.mem_map_of_mem hk)

theorem sum_map_ite (p : CandidateSignalSeries → Prop) [DecidablePred p] (f : CandidateSignalSeries → ℕ) (l : List CandidateSignalSeries)
    (h : ∀ k ∈ l, f k = if p k then 1 else 0) : (l.map f).sum = l.countP fun k => decide (p k) := by
  induction l with
  | nil => rfl
  | cons k l ih =>
    rw [List.map_cons, List.sum_cons, List.countP_cons, ih fun k' hk' => h k' (List.mem_cons_of_mem k hk'), h k List.mem_cons_self,
      Nat.add_comm]
    simp only [decide_eq_true_eq]

/-- The comparisons of the filter that a signal loses. -/
theorem pairSum_loss (hsymmetric : ∀ a b, pearson a b = pearson b a) (hnodup : (l.map CandidateSignalSeries.strategyId).Nodup) (hs : s ∈ l) :
    Pairs.pairSum (loss pearson threshold minHistory s.strategyId) l = losses pearson threshold minHistory l s := by
  obtain ⟨before, behind, rfl⟩ := List.append_of_mem hs
  have hne : ∀ k ∈ before ++ behind, k.strategyId ≠ s.strategyId := fun k hk => ne_of_around hnodup hk
  have hzero : ∀ x ∈ before ++ behind, ∀ y ∈ before ++ behind, loss pearson threshold minHistory s.strategyId x y = 0 :=
    fun x hx y hy => weaker_other (hne x hx) (hne y hy)
  have hself : ¬Stronger pearson threshold minHistory s s := fun h => absurd h.2 (lt_irrefl _)
  have hbefore : (before.map fun x => loss pearson threshold minHistory s.strategyId x s).sum =
      before.countP (fun k => decide (Stronger pearson threshold minHistory s k)) +
        before.countP fun k => decide (Tied pearson threshold minHistory s k) := by
    rw [← sum_map_ite (Stronger pearson threshold minHistory s) _ before fun _ _ => rfl,
      ← sum_map_ite (Tied pearson threshold minHistory s) _ before fun _ _ => rfl, ← List.sum_map_add]
    congr 1
    refine List.map_congr_left fun k hk => ?_
    have hkne := hne k (List.mem_append_left _ hk)
    simp only [loss, Stronger, Tied, filterScore_weaker_right k s hkne, comparable_comm hsymmetric k s]
    rcases lt_trichotomy (filterScore s) (filterScore k) with hlt | heq | hgt
    · simp [hlt, hlt.le, hlt.ne]
    · simp [heq]
    · simp [not_le.mpr hgt, hgt.not_gt, hgt.ne']
  have hbehind : (behind.map (loss pearson threshold minHistory s.strategyId s)).sum =
      behind.countP fun k => decide (Stronger pearson threshold minHistory s k) := by
    refine sum_map_ite (Stronger pearson threshold minHistory s) _ _ fun k hk => if_congr ?_ rfl rfl
    rw [filterScore_weaker_left s k (hne k (List.mem_append_right _ hk)).symm]
    rfl
  rw [Pairs.pairSum_around (fun x hx y hy => hzero x (List.mem_append_left _ hx) y hy)
    (fun x hx y hy => hzero x (List.mem_append_right _ hx) y (List.mem_append_right _ hy)), hbefore, hbehind]
  unfold losses
  rw [precede_around hnodup, List.countP_append, List.countP_cons, if_neg (by simpa using hself)]
  omega

/-- The filter leaves of each weight what its losses leave. -/
theorem correlationFilter_eq (hsymmetric : ∀ a b, pearson a b = pearson b a) (hnodup : (l.map CandidateSignalSeries.strategyId).Nodup) :
    correlationFilter pearson threshold minHistory l =
      l.map fun s => (s, s.weight * (1 / 4) ^ losses pearson threshold minHistory l s) := by
  refine List.map_congr_left fun s hs => ?_
  rw [get_compareAll, get_initialWeights hnodup hs, pairSum_loss hsymmetric hnodup hs]
  rfl

end Weights

/-! ## Votes -/

@[simp] theorem voteOf_direction (entry : CandidateSignalSeries × ℚ) : (voteOf entry).direction = entry.1.direction := rfl

@[simp] theorem voteOf_weight (entry : CandidateSignalSeries × ℚ) : (voteOf entry).weight = entry.2 := rfl

@[simp] theorem voteConfidence_voteOf (entry : CandidateSignalSeries × ℚ) : voteConfidence (voteOf entry) = counted entry.1.confidence := rfl

end SignalShares

/-!
## The signals that may vote

Which signals may vote depends neither on their order nor on the confidence of those that do, and mirrors with the sides.
-/

open SignalEnsembleService

/-- The signal of the other side. -/
def CandidateSignalSeries.flipped (s : CandidateSignalSeries) : CandidateSignalSeries := { s with direction := s.direction.opposite }

/-- The signals with the confidence of one of them set. -/
def withConfidence (strategyId : String) (confidence : ℚ) (signals : List CandidateSignalSeries) : List CandidateSignalSeries :=
  signals.map fun s => if s.strategyId = strategyId then { s with confidence := some confidence } else s

/-- The signals of a request that may vote. -/
def eligibleOf (minDirectionSources : ℤ) (regime : Option MarketRegime) (signals : List CandidateSignalSeries) : List CandidateSignalSeries :=
  eligibleLayeredSignals signals (resolveAllowedDirection signals minDirectionSources) regime

namespace EligibleSignals

/-! ## The allowed direction -/

section Allowed

variable {minDirectionSources : ℤ} {regime : Option MarketRegime} {signals signals' l' : List CandidateSignalSeries}

theorem foldl_addDirection (signals : List CandidateSignalSeries) (weights : ℚ × ℚ) :
    signals.foldl addDirection weights =
      (weights.1 + ((signals.filter fun s => decide (s.direction = .long)).map directionConfidence).sum,
        weights.2 + ((signals.filter fun s => decide (s.direction = .short)).map directionConfidence).sum) := by
  induction signals generalizing weights with
  | nil => simp
  | cons s signals ih =>
    rw [List.foldl_cons, ih]
    cases hside : s.direction with
    | long => simp [addDirection, hside, add_assoc]
    | short => simp [addDirection, hside, add_assoc]

/-- The direction of the confidence on both sides. -/
def resolution (long short : ℚ) : Option Direction :=
  if long + short = 0 then none
  else if 0 < (long - short) / (long + short) then some .long
  else if (long - short) / (long + short) < 0 then some .short
  else none

/-- The direction sources of a side. -/
def directionSide (signals : List CandidateSignalSeries) (side : Direction) : ℚ :=
  (((signals.filter fun s => decide (signalSource s.strategyId ∈ directionSources)).filter fun s => decide (s.direction = side)).map
    directionConfidence).sum

theorem resolveAllowedDirection_eq (signals : List CandidateSignalSeries) (minDirectionSources : ℤ) :
    resolveAllowedDirection signals minDirectionSources =
      if ((signals.filter fun s => decide (signalSource s.strategyId ∈ directionSources)).length : ℤ) < minDirectionSources then none
      else resolution (directionSide signals .long) (directionSide signals .short) := by
  unfold resolveAllowedDirection
  by_cases hnil : signals = []
  · subst hnil
    simp [resolution, directionSide]
  · rw [if_neg hnil]
    dsimp only
    rw [foldl_addDirection]
    dsimp only
    rw [zero_add, zero_add]
    rfl

theorem resolveAllowedDirection_perm (h : signals.Perm signals') :
    resolveAllowedDirection signals minDirectionSources = resolveAllowedDirection signals' minDirectionSources := by
  have hside : ∀ side, directionSide signals side = directionSide signals' side :=
    fun side => (((h.filter _).filter _).map directionConfidence).sum_eq
  rw [resolveAllowedDirection_eq, resolveAllowedDirection_eq, hside, hside, (h.filter _).length_eq]

theorem resolution_comm (long short : ℚ) : resolution short long = (resolution long short).map Direction.opposite := by
  have hneg : (short - long) / (short + long) = -((long - short) / (long + short)) := by
    rw [add_comm short long, ← neg_div, neg_sub]
  unfold resolution
  rw [hneg, add_comm short long]
  by_cases hzero : long + short = 0
  · simp [hzero]
  · rw [if_neg hzero, if_neg hzero]
    rcases lt_trichotomy ((long - short) / (long + short)) 0 with hlt | heq | hgt
    · rw [if_pos (neg_pos.mpr hlt), if_neg (not_lt.mpr hlt.le), if_pos hlt]
      rfl
    · simp [heq]
    · rw [if_neg (not_lt.mpr (neg_nonpos.mpr hgt.le)), if_pos (neg_lt_zero.mpr hgt), if_pos hgt]
      rfl

theorem opposite_of_ne {side side' : Direction} (h : side ≠ side') : side = side'.opposite := by
  cases side <;> cases side' <;> first | rfl | exact absurd rfl h

theorem opposite_eq (side side' : Direction) : side.opposite = side' ↔ side = side'.opposite := by
  cases side <;> cases side' <;> decide

theorem resolveAllowedDirection_flipped (signals : List CandidateSignalSeries) :
    resolveAllowedDirection (signals.map CandidateSignalSeries.flipped) minDirectionSources =
      (resolveAllowedDirection signals minDirectionSources).map Direction.opposite := by
  have hsource : (signals.map CandidateSignalSeries.flipped).filter (fun s => decide (signalSource s.strategyId ∈ directionSources)) =
      (signals.filter fun s => decide (signalSource s.strategyId ∈ directionSources)).map CandidateSignalSeries.flipped := List.filter_map
  have hside : ∀ side, directionSide (signals.map CandidateSignalSeries.flipped) side = directionSide signals side.opposite := by
    intro side
    unfold directionSide
    rw [hsource, List.filter_map, List.map_map]
    congr 2
    exact List.filter_congr fun s _ => decide_eq_decide.mpr (opposite_eq s.direction side)
  rw [resolveAllowedDirection_eq, resolveAllowedDirection_eq, hside, hside, hsource, List.length_map]
  split_ifs
  · rfl
  · exact resolution_comm _ _

theorem mayVote_flipped (allowedDirection : Option Direction) (regime : Option MarketRegime) (s : CandidateSignalSeries) :
    mayVote (allowedDirection.map Direction.opposite) regime s.flipped = mayVote allowedDirection regime s := by
  unfold mayVote
  cases allowedDirection with
  | none => rfl
  | some direction =>
    have hsame : (s.flipped.direction = direction.opposite) = (s.direction = direction) := by
      change (s.direction.opposite = direction.opposite) = _
      cases s.direction <;> cases direction <;> decide
    dsimp only [Option.map_some]
    simp only [hsame]
    rfl

/-- A signal that may vote is no direction source. -/
theorem not_direction_of_mayVote {allowedDirection : Option Direction} {s : CandidateSignalSeries}
    (h : mayVote allowedDirection regime s = true) : signalSource s.strategyId ∉ directionSources := by
  intro hsource
  have hlayer : signalLayer s.strategyId = .direction := if_pos hsource
  unfold mayVote at h
  simp [hlayer] at h

theorem eligibleOf_perm (h : signals.Perm signals') :
    (eligibleOf minDirectionSources regime signals).Perm (eligibleOf minDirectionSources regime signals') := by
  unfold eligibleOf
  rw [resolveAllowedDirection_perm h]
  exact h.filter _

theorem eligibleOf_flipped (signals : List CandidateSignalSeries) :
    eligibleOf minDirectionSources regime (signals.map CandidateSignalSeries.flipped) =
      (eligibleOf minDirectionSources regime signals).map CandidateSignalSeries.flipped := by
  unfold eligibleOf
  unfold eligibleLayeredSignals
  rw [resolveAllowedDirection_flipped, List.filter_map]
  exact congrArg (List.map _) (List.filter_congr fun s _ => mayVote_flipped _ _ s)

theorem eligibleOf_sublist (signals : List CandidateSignalSeries) : (eligibleOf minDirectionSources regime signals).Sublist signals := by
  exact List.filter_sublist

/-- Any order of the signals that may vote is that of some order of the signals. -/
theorem eligibleOf_reached (h : (eligibleOf minDirectionSources regime signals).Perm l') :
    ∃ signals', signals.Perm signals' ∧ eligibleOf minDirectionSources regime signals' = l' := by
  have hfilter : eligibleOf minDirectionSources regime signals =
      signals.filter (mayVote (resolveAllowedDirection signals minDirectionSources) regime) := rfl
  rw [hfilter] at h
  have hperm : signals.Perm
      (l' ++ signals.filter fun s => !mayVote (resolveAllowedDirection signals minDirectionSources) regime s) :=
    (List.filter_append_perm _ signals).symm.trans (h.append_right _)
  refine ⟨_, hperm, ?_⟩
  unfold eligibleOf
  unfold eligibleLayeredSignals
  rw [← resolveAllowedDirection_perm hperm, List.filter_append]
  have hall : l'.filter (mayVote (resolveAllowedDirection signals minDirectionSources) regime) = l' := by
    refine List.filter_eq_self.mpr fun s hs => ?_
    exact (List.mem_filter.mp (h.mem_iff.mpr hs)).2
  have hnone : (signals.filter fun s => !mayVote (resolveAllowedDirection signals minDirectionSources) regime s).filter
      (mayVote (resolveAllowedDirection signals minDirectionSources) regime) = [] := by
    refine List.filter_eq_nil_iff.mpr fun s hs hmay => ?_
    have hnot := (List.mem_filter.mp hs).2
    rw [hmay] at hnot
    exact absurd hnot (by simp)
  rw [hall, hnone, List.append_nil]

/-- The confidence of a signal that votes leaves the signals that may vote. -/
theorem eligibleOf_withConfidence {s : CandidateSignalSeries}
    (hs : s ∈ eligibleOf minDirectionSources regime signals) (c : ℚ) :
    eligibleOf minDirectionSources regime (withConfidence s.strategyId c signals) =
      withConfidence s.strategyId c (eligibleOf minDirectionSources regime signals) := by
  have hfilter : eligibleOf minDirectionSources regime signals =
      signals.filter (mayVote (resolveAllowedDirection signals minDirectionSources) regime) := rfl
  rw [hfilter] at hs
  have hsource : signalSource s.strategyId ∉ directionSources := not_direction_of_mayVote (List.mem_filter.mp hs).2
  have hkeep : (withConfidence s.strategyId c signals).filter (fun k => decide (signalSource k.strategyId ∈ directionSources)) =
      signals.filter fun k => decide (signalSource k.strategyId ∈ directionSources) := by
    unfold withConfidence
    rw [List.filter_map]
    have hsame : signals.filter ((fun k => decide (signalSource k.strategyId ∈ directionSources)) ∘ fun k =>
        if k.strategyId = s.strategyId then { k with confidence := some c } else k) =
        signals.filter fun k => decide (signalSource k.strategyId ∈ directionSources) := by
      refine List.filter_congr fun k _ => ?_
      rw [Function.comp_apply]
      split_ifs <;> rfl
    rw [hsame]
    conv_rhs => rw [← List.map_id (signals.filter _)]
    refine List.map_congr_left fun k hk => ?_
    have hne : k.strategyId ≠ s.strategyId := by
      intro heq
      have hin := of_decide_eq_true (List.mem_filter.mp hk).2
      rw [heq] at hin
      exact hsource hin
    rw [if_neg hne]
    rfl
  have hallowed : resolveAllowedDirection (withConfidence s.strategyId c signals) minDirectionSources =
      resolveAllowedDirection signals minDirectionSources := by
    rw [resolveAllowedDirection_eq, resolveAllowedDirection_eq]
    unfold directionSide
    rw [hkeep]
  unfold eligibleOf
  rw [hallowed]
  unfold withConfidence eligibleLayeredSignals
  rw [List.filter_map]
  refine congrArg (List.map _) (List.filter_congr fun k _ => ?_)
  rw [Function.comp_apply]
  split_ifs <;> rfl

end Allowed

end EligibleSignals

/-!
## What changes the shares

The shares of the sides as the sums of what their votes carry, under changes of the signals that the filter does not see and under swaps
of neighbours.
-/

namespace ShareSwaps

open SignalEnsembleService SignalShares EligibleSignals

variable {pearson : List ℚ → List ℚ → ℚ} {threshold : ℚ} {minHistory : ℤ} {l l' : List CandidateSignalSeries}

/-! ## Votes -/

theorem counted_pos {confidence : Option ℚ} (h : ∀ c, confidence = some c → 0 ≤ c ∧ c ≤ 1) : 0 < counted confidence := by
  cases confidence with
  | none => exact zero_lt_one
  | some c =>
    unfold counted
    dsimp only
    split_ifs with hc
    · exact zero_lt_one
    · exact lt_of_le_of_ne (h c rfl).1 (Ne.symm hc)

theorem shareAt_nonneg (l : List CandidateSignalSeries) (s : CandidateSignalSeries) {c : ℚ} (hc : 0 ≤ c) :
    0 ≤ shareAt pearson threshold minHistory l s c := by
  unfold shareAt
  positivity

theorem share_pos {s : CandidateSignalSeries} (h : ∀ c, s.confidence = some c → 0 ≤ c ∧ c ≤ 1) (hweight : 0 < s.weight) :
    0 < share pearson threshold minHistory l s := by
  have hcounted := counted_pos h
  unfold share shareAt
  rw [max_eq_left hweight.le]
  positivity

theorem share_nonneg (l : List CandidateSignalSeries) {s : CandidateSignalSeries} (h : ∀ c, s.confidence = some c → 0 ≤ c ∧ c ≤ 1) :
    0 ≤ share pearson threshold minHistory l s := shareAt_nonneg l s (counted_pos h).le

/-- The share of a side, signal by signal. -/
theorem sideShare_eq (l : List CandidateSignalSeries) (side : Direction) : sideShare pearson threshold minHistory l side =
    (l.map fun s => if s.direction = side then share pearson threshold minHistory l s else 0).sum := by
  have hgeneral : ∀ (f : CandidateSignalSeries → ℚ) (m : List CandidateSignalSeries),
      ((m.filter fun s => decide (s.direction = side)).map f).sum = (m.map fun s => if s.direction = side then f s else 0).sum := by
    intro f m
    induction m with
    | nil => rfl
    | cons s m ih =>
      rw [List.map_cons, List.sum_cons, ← ih]
      by_cases hside : s.direction = side
      · simp [hside]
      · simp [hside]
  exact hgeneral _ l

theorem sideShare_nonneg (h : ∀ s ∈ l, ∀ c, s.confidence = some c → 0 ≤ c ∧ c ≤ 1) (side : Direction) :
    0 ≤ sideShare pearson threshold minHistory l side := by
  refine List.sum_nonneg fun q hq => ?_
  obtain ⟨s, hs, rfl⟩ := List.mem_map.mp hq
  exact share_nonneg l (h s (List.mem_of_mem_filter hs))

/-- A side with a signal that weighs has a share. -/
theorem sideShare_pos (h : ∀ s ∈ l, ∀ c, s.confidence = some c → 0 ≤ c ∧ c ≤ 1) {s : CandidateSignalSeries} (hs : s ∈ l)
    (hweight : 0 < s.weight) : 0 < sideShare pearson threshold minHistory l s.direction := by
  have hle : share pearson threshold minHistory l s ≤ sideShare pearson threshold minHistory l s.direction := by
    refine List.single_le_sum (fun q hq => ?_) _ (List.mem_map_of_mem (List.mem_filter.mpr ⟨hs, decide_eq_true rfl⟩))
    obtain ⟨k, hk, rfl⟩ := List.mem_map.mp hq
    exact share_nonneg l (h k (List.mem_of_mem_filter hk))
  exact (share_pos (h s hs) hweight).trans_le hle

/-- The score of a side is the sum of what its votes carry. -/
theorem sideScore_votesOf (g : CandidateSignalSeries → ℚ) (m : List CandidateSignalSeries) (side : Direction) :
    sideScore (votesOf (m.map fun s => (s, g s))) side =
      ((m.filter fun s => decide (s.direction = side)).map fun s => max (g s) 0 * counted s.confidence).sum := by
  induction m with
  | nil => rfl
  | cons s m ih =>
    unfold sideScore votesOf at ih ⊢
    by_cases hpos : 0 < g s
    · by_cases hside : s.direction = side
      · simp [hpos, hside, ih, max_eq_left hpos.le]
      · simp [hpos, hside, ih]
    · by_cases hside : s.direction = side
      · simp [hpos, hside, ih, max_eq_right (not_lt.mp hpos)]
      · simp [hpos, hside, ih]

/-- The scores of the votes are the shares of the sides. -/
theorem sideScore_filter (hsymmetric : ∀ a b, pearson a b = pearson b a) (hnodup : (l.map CandidateSignalSeries.strategyId).Nodup)
    (side : Direction) :
    sideScore (votesOf (correlationFilter pearson threshold minHistory l)) side = sideShare pearson threshold minHistory l side := by
  rw [correlationFilter_eq hsymmetric hnodup, sideScore_votesOf]
  congr 1
  refine List.map_congr_left fun s _ => ?_
  have hmax : max (s.weight * (1 / 4) ^ losses pearson threshold minHistory l s) 0 =
      max s.weight 0 * (1 / 4) ^ losses pearson threshold minHistory l s := by
    rw [max_mul_of_nonneg _ _ (by positivity), zero_mul]
  unfold share shareAt
  rw [hmax]
  ring

theorem mem_votesOf (hsymmetric : ∀ a b, pearson a b = pearson b a) (hnodup : (l.map CandidateSignalSeries.strategyId).Nodup) {vote : SignalVote} :
    vote ∈ votesOf (correlationFilter pearson threshold minHistory l) ↔
      ∃ s ∈ l, 0 < s.weight ∧ vote = voteOf (s, s.weight * (1 / 4) ^ losses pearson threshold minHistory l s) := by
  have hpow : ∀ s, (0 : ℚ) < (1 / 4) ^ losses pearson threshold minHistory l s := fun s => by positivity
  rw [correlationFilter_eq hsymmetric hnodup]
  unfold votesOf
  simp only [List.mem_map, List.mem_filter, decide_eq_true_eq]
  constructor
  · rintro ⟨_, ⟨⟨s, hs, rfl⟩, hpos⟩, rfl⟩
    exact ⟨s, hs, (mul_pos_iff_of_pos_right (hpow s)).mp hpos, rfl⟩
  · rintro ⟨s, hs, hpos, rfl⟩
    exact ⟨_, ⟨⟨s, hs, rfl⟩, mul_pos hpos (hpow s)⟩, rfl⟩

/-! ## Signals changed where the filter does not look -/

section Changed

variable {f : CandidateSignalSeries → CandidateSignalSeries}

/-- A change that the filter does not see. -/
structure Unseen (f : CandidateSignalSeries → CandidateSignalSeries) : Prop where
  strategyId : ∀ s, (f s).strategyId = s.strategyId
  weight : ∀ s, (f s).weight = s.weight
  validationScore : ∀ s, (f s).validationScore = s.validationScore
  series : ∀ s, (f s).series = s.series

theorem Unseen.comparable (h : Unseen f) (a b : CandidateSignalSeries) :
    comparable pearson threshold minHistory (f a) (f b) = comparable pearson threshold minHistory a b := by
  unfold SignalEnsembleService.comparable
  rw [h.series, h.series]

theorem Unseen.filterScore (h : Unseen f) (a : CandidateSignalSeries) : filterScore (f a) = filterScore a := by
  unfold SignalEnsembleService.filterScore
  rw [h.validationScore, h.weight]

theorem Unseen.stronger (h : Unseen f) (a b : CandidateSignalSeries) :
    Stronger pearson threshold minHistory (f a) (f b) ↔ Stronger pearson threshold minHistory a b := by
  unfold Stronger
  rw [h.comparable, h.filterScore, h.filterScore]

theorem Unseen.tied (h : Unseen f) (a b : CandidateSignalSeries) :
    Tied pearson threshold minHistory (f a) (f b) ↔ Tied pearson threshold minHistory a b := by
  unfold Tied
  rw [h.comparable, h.filterScore, h.filterScore]

theorem Unseen.losses (h : Unseen f) (l : List CandidateSignalSeries) (s : CandidateSignalSeries) :
    losses pearson threshold minHistory (l.map f) (f s) = losses pearson threshold minHistory l s := by
  have hprecede : precede (l.map f) (f s) = (precede l s).map f := by
    unfold precede
    rw [List.takeWhile_map, h.strategyId]
    congr 2
    funext k
    rw [Function.comp_apply, h.strategyId]
  unfold SignalShares.losses
  rw [hprecede, List.countP_map, List.countP_map]
  simp only [Function.comp_def, h.stronger, h.tied]

theorem Unseen.shareAt (h : Unseen f) (l : List CandidateSignalSeries) (s : CandidateSignalSeries) (c : ℚ) :
    shareAt pearson threshold minHistory (l.map f) (f s) c = shareAt pearson threshold minHistory l s c := by
  unfold SignalShares.shareAt
  rw [h.losses, h.weight]

/-- The ids of a changed list. -/
theorem Unseen.ids (h : Unseen f) (l : List CandidateSignalSeries) :
    (l.map f).map CandidateSignalSeries.strategyId = l.map CandidateSignalSeries.strategyId := by
  rw [List.map_map]
  exact List.map_congr_left fun s _ => h.strategyId s

theorem unseen_flipped : Unseen CandidateSignalSeries.flipped := ⟨fun _ => rfl, fun _ => rfl, fun _ => rfl, fun _ => rfl⟩

theorem unseen_withConfidence (id : String) (c : ℚ) :
    Unseen fun s => if s.strategyId = id then { s with confidence := some c } else s := by
  refine ⟨fun s => ?_, fun s => ?_, fun s => ?_, fun s => ?_⟩
  all_goals split_ifs <;> rfl

/-- The other sides have each other's shares. -/
theorem sideShare_flipped (l : List CandidateSignalSeries) (side : Direction) :
    sideShare pearson threshold minHistory (l.map CandidateSignalSeries.flipped) side =
      sideShare pearson threshold minHistory l side.opposite := by
  unfold sideShare
  rw [List.filter_map, List.map_map]
  have hfilter : l.filter ((fun s => decide (s.direction = side)) ∘ CandidateSignalSeries.flipped) =
      l.filter fun s => decide (s.direction = side.opposite) :=
    List.filter_congr fun s _ => decide_eq_decide.mpr (opposite_eq s.direction side)
  rw [hfilter]
  congr 1
  exact List.map_congr_left fun s _ => unseen_flipped.shareAt l s _

/-- A sum in which one row of distinct ones is changed. -/
theorem sum_changed {m : List CandidateSignalSeries} (hnodup : (m.map CandidateSignalSeries.strategyId).Nodup) {s : CandidateSignalSeries}
    (hs : s ∈ m) (g h : CandidateSignalSeries → ℚ) :
    (m.map fun k => if k.strategyId = s.strategyId then g k else h k).sum = (m.map h).sum - h s + g s := by
  induction m with
  | nil => nomatch hs
  | cons a m ih =>
    rw [List.map_cons, List.nodup_cons] at hnodup
    rw [List.map_cons, List.map_cons, List.sum_cons, List.sum_cons]
    rcases List.mem_cons.mp hs with rfl | hs
    · have hrest : (m.map fun k => if k.strategyId = s.strategyId then g k else h k) = m.map h := by
        refine List.map_congr_left fun k hk => if_neg fun heq => hnodup.1 ?_
        rw [← heq]
        exact List.mem_map_of_mem hk
      rw [hrest, if_pos rfl]
      ring
    · have hne : a.strategyId ≠ s.strategyId := by
        intro heq
        exact hnodup.1 (heq ▸ List.mem_map_of_mem hs)
      rw [if_neg hne, ih hnodup.2 hs]
      ring

theorem sideShare_withConfidence_eq (l : List CandidateSignalSeries) (id : String) (c : ℚ) (side : Direction) :
    sideShare pearson threshold minHistory (withConfidence id c l) side =
      ((l.filter fun s => decide (s.direction = side)).map fun k =>
        if k.strategyId = id then shareAt pearson threshold minHistory l k (counted (some c))
        else share pearson threshold minHistory l k).sum := by
  unfold sideShare withConfidence
  rw [List.filter_map, List.map_map]
  have hfilter : l.filter ((fun s => decide (s.direction = side)) ∘ fun s =>
      if s.strategyId = id then { s with confidence := some c } else s) = l.filter fun s => decide (s.direction = side) := by
    refine List.filter_congr fun s _ => ?_
    rw [Function.comp_apply]
    split_ifs <;> rfl
  rw [hfilter]
  congr 1
  refine List.map_congr_left fun k _ => ?_
  have hshare : ∀ q, shareAt pearson threshold minHistory (l.map fun s => if s.strategyId = id then { s with confidence := some c } else s)
      (if k.strategyId = id then { k with confidence := some c } else k) q = shareAt pearson threshold minHistory l k q :=
    (unseen_withConfidence id c).shareAt l k
  rw [Function.comp_apply]
  unfold share
  rw [hshare]
  split_ifs <;> rfl

/-- The confidence of one signal changes the share of its side by its own. -/
theorem sideShare_withConfidence (hnodup : (l.map CandidateSignalSeries.strategyId).Nodup) {s : CandidateSignalSeries} (hs : s ∈ l) (c : ℚ) :
    sideShare pearson threshold minHistory (withConfidence s.strategyId c l) s.direction =
      sideShare pearson threshold minHistory l s.direction - share pearson threshold minHistory l s +
        shareAt pearson threshold minHistory l s (counted (some c)) := by
  rw [sideShare_withConfidence_eq]
  exact sum_changed ((List.filter_sublist.map _).nodup hnodup) (List.mem_filter.mpr ⟨hs, decide_eq_true rfl⟩) _ _

theorem sideShare_withConfidence_other (hnodup : (l.map CandidateSignalSeries.strategyId).Nodup) {s : CandidateSignalSeries} (hs : s ∈ l)
    (c : ℚ) {side : Direction} (hside : s.direction ≠ side) :
    sideShare pearson threshold minHistory (withConfidence s.strategyId c l) side = sideShare pearson threshold minHistory l side := by
  rw [sideShare_withConfidence_eq]
  unfold sideShare
  congr 1
  refine List.map_congr_left fun k hk => if_neg fun heq => hside ?_
  have hsame := List.inj_on_of_nodup_map hnodup (List.mem_of_mem_filter hk) hs heq
  rw [← hsame]
  exact of_decide_eq_true (List.mem_filter.mp hk).2

end Changed

/-! ## Swaps -/

section Swaps

variable {before behind : List CandidateSignalSeries} {x y s : CandidateSignalSeries}

/-- The share of a signal behind some signals. -/
def shareAfter (pearson : List ℚ → List ℚ → ℚ) (threshold : ℚ) (minHistory : ℤ) (l before : List CandidateSignalSeries)
    (s : CandidateSignalSeries) : ℚ :=
  max s.weight 0 * counted s.confidence *
    (1 / 4) ^ (l.countP (fun k => decide (Stronger pearson threshold minHistory s k)) +
      before.countP fun k => decide (Tied pearson threshold minHistory s k))

theorem shareAfter_perm {before' : List CandidateSignalSeries} (h : l.Perm l') (hbefore : before.Perm before') (s : CandidateSignalSeries) :
    shareAfter pearson threshold minHistory l before s = shareAfter pearson threshold minHistory l' before' s := by
  unfold shareAfter
  rw [h.countP_eq, hbefore.countP_eq]

theorem shareAfter_nil (l : List CandidateSignalSeries) (s : CandidateSignalSeries) :
    shareAfter pearson threshold minHistory l [] s = standing pearson threshold minHistory l s := rfl

theorem shareAfter_append (l before : List CandidateSignalSeries) (s k : CandidateSignalSeries) :
    shareAfter pearson threshold minHistory l (before ++ [k]) s =
      shareAfter pearson threshold minHistory l before s * if Tied pearson threshold minHistory s k then 1 / 4 else 1 := by
  unfold shareAfter
  rw [List.countP_append, List.countP_singleton]
  split_ifs with h h'
  · rw [← Nat.add_assoc, pow_succ]
    ring
  · exact absurd (of_decide_eq_true h) h'
  · exact absurd (decide_eq_true ‹_›) h
  · rw [Nat.add_zero, mul_one]

theorem shareAfter_nonneg (h : ∀ c, s.confidence = some c → 0 ≤ c ∧ c ≤ 1) : 0 ≤ shareAfter pearson threshold minHistory l before s := by
  have hcounted := counted_pos h
  unfold shareAfter
  positivity

theorem shareAfter_pos (h : ∀ c, s.confidence = some c → 0 ≤ c ∧ c ≤ 1) (hweight : 0 < s.weight) :
    0 < shareAfter pearson threshold minHistory l before s := by
  have hcounted := counted_pos h
  unfold shareAfter
  rw [max_eq_left hweight.le]
  positivity

theorem shareAfter_eq_zero (hweight : s.weight ≤ 0) : shareAfter pearson threshold minHistory l before s = 0 := by
  unfold shareAfter
  rw [max_eq_right hweight, zero_mul, zero_mul]

/-- A swap leaves what precedes the other signals. -/
theorem precede_swap (hx : x.strategyId ≠ s.strategyId) (hy : y.strategyId ≠ s.strategyId) (before behind : List CandidateSignalSeries) :
    (precede (before ++ x :: y :: behind) s).Perm (precede (before ++ y :: x :: behind) s) := by
  unfold precede
  induction before with
  | nil =>
    simp only [List.nil_append]
    rw [List.takeWhile_cons_of_pos (by simpa using hx), List.takeWhile_cons_of_pos (by simpa using hy),
      List.takeWhile_cons_of_pos (by simpa using hy), List.takeWhile_cons_of_pos (by simpa using hx)]
    exact List.Perm.swap _ _ _
  | cons a before ih =>
    rw [List.cons_append, List.cons_append]
    by_cases ha : a.strategyId = s.strategyId
    · rw [List.takeWhile_cons_of_neg (by simpa using ha), List.takeWhile_cons_of_neg (by simpa using ha)]
    · rw [List.takeWhile_cons_of_pos (by simpa using ha), List.takeWhile_cons_of_pos (by simpa using ha)]
      exact ih.cons a

/-- What the side has from a signal. -/
def onSide (side : Direction) (s : CandidateSignalSeries) (q : ℚ) : ℚ := if s.direction = side then q else 0

/-- What two neighbours have, in either order, and what the others have in both. -/
theorem sideShare_swap (hsymmetric : ∀ a b, pearson a b = pearson b a)
    (hnodup : ((before ++ x :: y :: behind).map CandidateSignalSeries.strategyId).Nodup) :
    ∃ others : Direction → ℚ, ∀ side,
      sideShare pearson threshold minHistory (before ++ x :: y :: behind) side =
        others side + onSide side x (shareAfter pearson threshold minHistory (before ++ x :: y :: behind) before x) +
          onSide side y (shareAfter pearson threshold minHistory (before ++ x :: y :: behind) before y *
            if Tied pearson threshold minHistory x y then 1 / 4 else 1) ∧
      sideShare pearson threshold minHistory (before ++ y :: x :: behind) side =
        others side + onSide side x (shareAfter pearson threshold minHistory (before ++ x :: y :: behind) before x *
            if Tied pearson threshold minHistory x y then 1 / 4 else 1) +
          onSide side y (shareAfter pearson threshold minHistory (before ++ x :: y :: behind) before y) := by
  have hperm : (before ++ x :: y :: behind).Perm (before ++ y :: x :: behind) := (List.Perm.swap y x behind).append_left before
  have hnodup' : ((before ++ y :: x :: behind).map CandidateSignalSeries.strategyId).Nodup := (hperm.map _).nodup_iff.mp hnodup
  have hassoc : ∀ a b : CandidateSignalSeries, before ++ a :: b :: behind = (before ++ [a]) ++ b :: behind := by simp
  have htied : Tied pearson threshold minHistory y x ↔ Tied pearson threshold minHistory x y :=
    ⟨Tied.symm hsymmetric, Tied.symm hsymmetric⟩
  have hfirst : ∀ a b, ((before ++ a :: b :: behind).map CandidateSignalSeries.strategyId).Nodup →
      share pearson threshold minHistory (before ++ a :: b :: behind) a =
        shareAfter pearson threshold minHistory (before ++ a :: b :: behind) before a := by
    intro a b h
    unfold share shareAt losses
    rw [precede_around h]
    rfl
  have hsecond : ∀ a b, ((before ++ a :: b :: behind).map CandidateSignalSeries.strategyId).Nodup →
      share pearson threshold minHistory (before ++ a :: b :: behind) b =
        shareAfter pearson threshold minHistory (before ++ a :: b :: behind) before b *
          if Tied pearson threshold minHistory b a then 1 / 4 else 1 := by
    intro a b h
    have hprecede : precede (before ++ a :: b :: behind) b = before ++ [a] := by
      rw [hassoc] at h ⊢
      exact precede_around h
    rw [← shareAfter_append]
    unfold share shareAt losses
    rw [hprecede]
    rfl
  have hother : ∀ k ∈ before ++ behind, share pearson threshold minHistory (before ++ y :: x :: behind) k =
      share pearson threshold minHistory (before ++ x :: y :: behind) k := by
    intro k hk
    have hkx : x.strategyId ≠ k.strategyId := by
      refine (ne_of_around hnodup ?_).symm
      rcases List.mem_append.mp hk with hk | hk
      · exact List.mem_append_left _ hk
      · exact List.mem_append_right _ (List.mem_cons_of_mem y hk)
    have hky : y.strategyId ≠ k.strategyId := by
      refine (ne_of_around hnodup' ?_).symm
      rcases List.mem_append.mp hk with hk | hk
      · exact List.mem_append_left _ hk
      · exact List.mem_append_right _ (List.mem_cons_of_mem x hk)
    unfold share shareAt losses
    rw [hperm.countP_eq, (precede_swap hkx hky before behind).countP_eq]
  refine ⟨fun side => ((before ++ behind).map fun k =>
    if k.direction = side then share pearson threshold minHistory (before ++ x :: y :: behind) k else 0).sum, fun side => ⟨?_, ?_⟩⟩
  · rw [sideShare_eq]
    simp only [List.map_append, List.map_cons, List.sum_append, List.sum_cons]
    rw [hfirst x y hnodup, hsecond x y hnodup, if_congr htied rfl rfl]
    unfold onSide
    ring
  · rw [sideShare_eq]
    simp only [List.map_append, List.map_cons, List.sum_append, List.sum_cons]
    have hleft : before.map (fun k => if k.direction = side then share pearson threshold minHistory (before ++ y :: x :: behind) k else 0) =
        before.map fun k => if k.direction = side then share pearson threshold minHistory (before ++ x :: y :: behind) k else 0 :=
      List.map_congr_left fun k hk => by rw [hother k (List.mem_append_left _ hk)]
    have hright : behind.map (fun k => if k.direction = side then share pearson threshold minHistory (before ++ y :: x :: behind) k else 0) =
        behind.map fun k => if k.direction = side then share pearson threshold minHistory (before ++ x :: y :: behind) k else 0 :=
      List.map_congr_left fun k hk => by rw [hother k (List.mem_append_right _ hk)]
    rw [hleft, hright, hfirst y x hnodup', hsecond y x hnodup', shareAfter_perm hperm.symm (List.Perm.refl _) y,
      shareAfter_perm hperm.symm (List.Perm.refl _) x]
    unfold onSide
    ring

end Swaps

end ShareSwaps

end TradingPlatform
