import Mathlib.Tactic.FieldSimp
import TradingPlatform.Lemmas.SignalEnsemble

/-!
# The fairness of the ensemble

The fused direction goes to the side of the greater share. The order of the signals tells where signals that tie in the filter are
unlike, an exact tie of the sides goes to the long one, and a vote whose confidence falls to nothing counts in full.
-/

namespace TradingPlatform

open SignalEnsembleService SignalShares EligibleSignals ShareSwaps

/-! ## The statement -/

/-- Signals with distinct identifiers, and confidences between nothing and one. -/
structure ValidSignals (signals : List CandidateSignalSeries) : Prop where
  nodup : (signals.map CandidateSignalSeries.strategyId).Nodup
  confidences : ∀ s ∈ signals, ∀ c, s.confidence = some c → 0 ≤ c ∧ c ≤ 1

section Fairness

variable (pearson : List ℚ → List ℚ → ℚ) (request : SignalEnsembleRequest) (minDirectionSources : ℤ) (regime : Option MarketRegime)

/-- The layered ensemble of some signals. -/
def layeredEnsemble (signals : List CandidateSignalSeries) : SignalEnsemble :=
  createLayeredEnsemble pearson { request with signals } minDirectionSources regime

/-- The fused direction and confidence of some signals. -/
def fused (signals : List CandidateSignalSeries) : Option Direction × Option ℚ :=
  ((layeredEnsemble pearson request minDirectionSources regime signals).fusedDirection,
    (layeredEnsemble pearson request minDirectionSources regime signals).fusedConfidence)

/-- The ensemble favours no order and no side, and no loss of confidence turns to the good of its side. -/
structure FairEnsemble (signals : List CandidateSignalSeries) : Prop where
  perm : ∀ signals', signals.Perm signals' →
    fused pearson request minDirectionSources regime signals' = fused pearson request minDirectionSources regime signals
  mirror : fused pearson request minDirectionSources regime (signals.map CandidateSignalSeries.flipped) =
    ((fused pearson request minDirectionSources regime signals).1.map Direction.opposite,
      (fused pearson request minDirectionSources regime signals).2)
  tie : sideScore (layeredEnsemble pearson request minDirectionSources regime signals).rawVotes .long =
      sideScore (layeredEnsemble pearson request minDirectionSources regime signals).rawVotes .short →
    (fused pearson request minDirectionSources regime signals).1 = none
  lower : ∀ direction, (fused pearson request minDirectionSources regime signals).1 = some direction →
    ∀ vote ∈ (layeredEnsemble pearson request minDirectionSources regime signals).rawVotes, vote.direction ≠ direction →
    ∀ confidence, 0 ≤ confidence → confidence ≤ vote.confidence.getD 1 →
    (fused pearson request minDirectionSources regime (withConfidence vote.strategyId confidence signals)).1 = some direction

end Fairness

section Balance

variable (pearson : List ℚ → List ℚ → ℚ) (threshold : ℚ) (minHistory : ℤ)

/-- All signals with a weight are of one side. -/
def OneSided (l : List CandidateSignalSeries) : Prop := ∀ a ∈ l, ∀ b ∈ l, 0 < a.weight → 0 < b.weight → a.direction = b.direction

/-- Two signals weigh alike, and tie with the same signals. -/
structure Twins (l : List CandidateSignalSeries) (a b : CandidateSignalSeries) : Prop where
  direction : a.direction = b.direction
  standing : standing pearson threshold minHistory l a = standing pearson threshold minHistory l b
  ties : ∀ k ∈ l, k.strategyId ≠ a.strategyId → k.strategyId ≠ b.strategyId →
    (Tied pearson threshold minHistory a k ↔ Tied pearson threshold minHistory b k)

/-- Signals that tie in the filter are twins or weigh nothing, the sides do not tie, and no signal of the weaker side would tip them if it
counted in full. -/
structure EvenHanded (l : List CandidateSignalSeries) : Prop where
  twins : ∀ a ∈ l, ∀ b ∈ l, a.strategyId ≠ b.strategyId → Tied pearson threshold minHistory a b →
    (a.weight ≤ 0 ∧ b.weight ≤ 0) ∨ Twins pearson threshold minHistory l a b
  uneven : sideShare pearson threshold minHistory l .long ≠ sideShare pearson threshold minHistory l .short
  shortTips : ∀ s ∈ l, s.direction = .short →
    sideShare pearson threshold minHistory l .short < sideShare pearson threshold minHistory l .long →
    sideShare pearson threshold minHistory l .short - share pearson threshold minHistory l s + shareAt pearson threshold minHistory l s 1 ≤
      sideShare pearson threshold minHistory l .long
  longTips : ∀ s ∈ l, s.direction = .long →
    sideShare pearson threshold minHistory l .long < sideShare pearson threshold minHistory l .short →
    sideShare pearson threshold minHistory l .long - share pearson threshold minHistory l s + shareAt pearson threshold minHistory l s 1 <
      sideShare pearson threshold minHistory l .short

end Balance

namespace EnsembleFairnessAux

variable {pearson : List ℚ → List ℚ → ℚ} {threshold : ℚ} {minHistory : ℤ} {l l' : List CandidateSignalSeries}

/-! ## The balance of the sides -/

/-- The direction and the confidence of two shares. -/
def balance (long short : ℚ) : Option Direction × Option ℚ :=
  if long + short = 0 then (none, none)
  else if short ≤ long then (some .long, some (long / (long + short)))
  else (some .short, some (short / (long + short)))

/-- The verdict on the signals that may vote. -/
def verdict (pearson : List ℚ → List ℚ → ℚ) (threshold : ℚ) (minHistory : ℤ) (l : List CandidateSignalSeries) : Option Direction × Option ℚ :=
  balance (sideShare pearson threshold minHistory l .long) (sideShare pearson threshold minHistory l .short)

theorem finalizeVotes_verdict (request : SignalEnsembleRequest) (hsymmetric : ∀ a b, pearson a b = pearson b a)
    (hnodup : (l.map CandidateSignalSeries.strategyId).Nodup) (h : ∀ s ∈ l, ∀ c, s.confidence = some c → 0 ≤ c ∧ c ≤ 1) :
    ((finalizeVotes request (votesOf (correlationFilter pearson threshold minHistory l))).fusedDirection,
      (finalizeVotes request (votesOf (correlationFilter pearson threshold minHistory l))).fusedConfidence) =
      verdict pearson threshold minHistory l := by
  have hlong : sideScore (votesOf (correlationFilter pearson threshold minHistory l)) .long = sideShare pearson threshold minHistory l .long :=
    sideScore_filter hsymmetric hnodup .long
  have hshort : sideScore (votesOf (correlationFilter pearson threshold minHistory l)) .short = sideShare pearson threshold minHistory l .short :=
    sideScore_filter hsymmetric hnodup .short
  by_cases hvotes : votesOf (correlationFilter pearson threshold minHistory l) = []
  · rw [hvotes] at hlong hshort ⊢
    unfold verdict balance
    rw [← hlong, ← hshort]
    simp [sideScore, finalizeVotes]
  · obtain ⟨vote, hvote⟩ := List.exists_mem_of_ne_nil _ hvotes
    obtain ⟨s, hs, hweight, -⟩ := (mem_votesOf hsymmetric hnodup).mp hvote
    have hpos : 0 < sideShare pearson threshold minHistory l s.direction := sideShare_pos h hs hweight
    have hsum : sideShare pearson threshold minHistory l .long + sideShare pearson threshold minHistory l .short ≠ 0 := by
      have hl : 0 ≤ sideShare pearson threshold minHistory l .long := sideShare_nonneg h .long
      have hs' : 0 ≤ sideShare pearson threshold minHistory l .short := sideShare_nonneg h .short
      cases hside : s.direction with
      | long => rw [hside] at hpos; exact (add_pos_of_pos_of_nonneg hpos hs').ne'
      | short => rw [hside] at hpos; exact (add_pos_of_nonneg_of_pos hl hpos).ne'
    unfold finalizeVotes verdict balance
    rw [if_neg hvotes, if_neg hsum]
    dsimp only
    rw [hlong, hshort, if_pos hsum, if_pos hsum]
    split_ifs <;> rfl

/-! ## Verdicts -/

section Verdicts

variable {s x y : CandidateSignalSeries}

/-- Verdicts are the same only in the same proportion of the sides. -/
theorem balance_inj {long short long' short' : ℚ} (hpos : 0 < long + short) (hpos' : 0 < long' + short')
    (h : balance long short = balance long' short') : long * short' = long' * short := by
  unfold balance at h
  rw [if_neg hpos.ne', if_neg hpos'.ne'] at h
  split_ifs at h
  · have hconfidence := Option.some.inj (Prod.mk.inj h).2
    rw [div_eq_div_iff hpos.ne' hpos'.ne'] at hconfidence
    linarith
  · exact absurd (Prod.mk.inj h).1 (by simp)
  · exact absurd (Prod.mk.inj h).1 (by simp)
  · have hconfidence := Option.some.inj (Prod.mk.inj h).2
    rw [div_eq_div_iff hpos.ne' hpos'.ne'] at hconfidence
    linarith

theorem balance_comm {long short : ℚ} (h : long + short = 0 ∨ long ≠ short) :
    balance short long = ((balance long short).1.map Direction.opposite, (balance long short).2) := by
  unfold balance
  rw [add_comm short long]
  by_cases hzero : long + short = 0
  · rw [if_pos hzero, if_pos hzero]
    rfl
  · have hne : long ≠ short := h.resolve_left hzero
    rw [if_neg hzero, if_neg hzero]
    rcases lt_or_gt_of_ne hne with hlt | hgt
    · rw [if_pos hlt.le, if_neg (not_le.mpr hlt)]
      rfl
    · rw [if_neg (not_le.mpr hgt), if_pos hgt.le]
      rfl

theorem uneven_of_balance_comm {long short : ℚ}
    (h : balance short long = ((balance long short).1.map Direction.opposite, (balance long short).2)) :
    long + short = 0 ∨ long ≠ short := by
  by_contra hboth
  rw [not_or, not_not] at hboth
  obtain ⟨hzero, heq⟩ := hboth
  subst heq
  unfold balance at h
  rw [if_neg hzero, if_pos le_rfl] at h
  have hside : some Direction.long = some Direction.short := (Prod.mk.inj h).1
  nomatch hside

theorem balance_long {long short : ℚ} : (balance long short).1 = some .long ↔ long + short ≠ 0 ∧ short ≤ long := by
  unfold balance
  split_ifs with hzero hle
  · simp [hzero]
  · simp [hzero, hle]
  · simp [hle]

theorem balance_short {long short : ℚ} : (balance long short).1 = some .short ↔ long + short ≠ 0 ∧ long < short := by
  unfold balance
  split_ifs with hzero hle
  · simp [hzero]
  · simp [hle]
  · simp [hzero, not_le.mp hle]

/-! ## One side -/

theorem sideShare_eq_zero {side : Direction} (h : ∀ s ∈ l, s.direction = side → s.weight ≤ 0) :
    sideShare pearson threshold minHistory l side = 0 := by
  refine List.sum_eq_zero fun q hq => ?_
  obtain ⟨s, hs, rfl⟩ := List.mem_map.mp hq
  have hweight := h s (List.mem_of_mem_filter hs) (of_decide_eq_true (List.mem_filter.mp hs).2)
  unfold share shareAt
  rw [max_eq_right hweight, zero_mul, zero_mul]

theorem OneSided.other_side (h : OneSided l) (hs : s ∈ l) (hweight : 0 < s.weight) :
    sideShare pearson threshold minHistory l s.direction.opposite = 0 := by
  refine sideShare_eq_zero fun k hk hside => ?_
  by_contra hpos
  have hsame := h k hk s hs (not_le.mp hpos) hweight
  rw [hsame] at hside
  cases hdirection : s.direction <;> rw [hdirection] at hside <;> nomatch hside

/-- On one side all confidence is that of the side. -/
theorem verdict_of_one (hvalid : ∀ s ∈ l, ∀ c, s.confidence = some c → 0 ≤ c ∧ c ≤ 1) (h : OneSided l) (hs : s ∈ l)
    (hweight : 0 < s.weight) : verdict pearson threshold minHistory l = (some s.direction, some 1) := by
  have hpos : 0 < sideShare pearson threshold minHistory l s.direction := sideShare_pos hvalid hs hweight
  have hother : sideShare pearson threshold minHistory l s.direction.opposite = 0 := OneSided.other_side h hs hweight
  unfold verdict balance
  cases hdirection : s.direction with
  | long =>
    rw [hdirection] at hpos hother
    change sideShare pearson threshold minHistory l .short = 0 at hother
    rw [hother, add_zero, if_neg hpos.ne', if_pos hpos.le, div_self hpos.ne']
  | short =>
    rw [hdirection] at hpos hother
    change sideShare pearson threshold minHistory l .long = 0 at hother
    rw [hother, zero_add, if_neg hpos.ne', if_neg (not_le.mpr hpos), div_self hpos.ne']

theorem verdict_of_none (h : ∀ s ∈ l, s.weight ≤ 0) : verdict pearson threshold minHistory l = (none, none) := by
  unfold verdict balance
  rw [sideShare_eq_zero fun s hs _ => h s hs, sideShare_eq_zero fun s hs _ => h s hs, if_pos (add_zero 0)]

theorem OneSided.verdict_perm (hvalid : ∀ s ∈ l, ∀ c, s.confidence = some c → 0 ≤ c ∧ c ≤ 1) (h : OneSided l) (hperm : l.Perm l') :
    verdict pearson threshold minHistory l' = verdict pearson threshold minHistory l := by
  have h' : OneSided l' := fun a ha b hb => h a (hperm.mem_iff.mpr ha) b (hperm.mem_iff.mpr hb)
  by_cases hnone : ∀ s ∈ l, s.weight ≤ 0
  · rw [verdict_of_none hnone, verdict_of_none fun s hs => hnone s (hperm.mem_iff.mpr hs)]
  · rw [not_forall] at hnone
    obtain ⟨s, hs⟩ := hnone
    rw [Classical.not_imp, not_le] at hs
    rw [verdict_of_one hvalid h hs.1 hs.2,
      verdict_of_one (fun s hs => hvalid s (hperm.mem_iff.mpr hs)) h' (hperm.mem_iff.mp hs.1) hs.2]

/-! ## Orders -/

/-- Twins stand alike behind the same signals. -/
theorem shareAfter_of_twins (htwins : Twins pearson threshold minHistory l x y) {before : List CandidateSignalSeries}
    (hbefore : ∀ k ∈ before, k ∈ l ∧ k.strategyId ≠ x.strategyId ∧ k.strategyId ≠ y.strategyId) :
    shareAfter pearson threshold minHistory l before x = shareAfter pearson threshold minHistory l before y := by
  have hties : before.countP (fun k => decide (Tied pearson threshold minHistory x k)) =
      before.countP fun k => decide (Tied pearson threshold minHistory y k) := by
    refine List.countP_congr fun k hk => ?_
    rw [decide_eq_true_iff, decide_eq_true_iff]
    exact htwins.ties k (hbefore k hk).1 (hbefore k hk).2.1 (hbefore k hk).2.2
  have hstanding := htwins.standing
  unfold standing at hstanding
  unfold shareAfter
  rw [pow_add, pow_add, ← mul_assoc, ← mul_assoc, hstanding, hties]

/-- Where ties are between twins, no order tells. -/
theorem sideShare_perm (hsymmetric : ∀ a b, pearson a b = pearson b a) (hnodup : (l.map CandidateSignalSeries.strategyId).Nodup)
    (htwins : ∀ a ∈ l, ∀ b ∈ l, a.strategyId ≠ b.strategyId → Tied pearson threshold minHistory a b →
      (a.weight ≤ 0 ∧ b.weight ≤ 0) ∨ Twins pearson threshold minHistory l a b) (hperm : l.Perm l') (side : Direction) :
    sideShare pearson threshold minHistory l side = sideShare pearson threshold minHistory l' side := by
  refine Pairs.eq_of_perm_of_swap (F := fun l => sideShare pearson threshold minHistory l side) hperm fun before x y behind hreached => ?_
  have hnodup' : ((before ++ x :: y :: behind).map CandidateSignalSeries.strategyId).Nodup := (hreached.map _).nodup_iff.mpr hnodup
  have hx : x ∈ l := hreached.mem_iff.mp (by simp)
  have hy : y ∈ l := hreached.mem_iff.mp (by simp)
  have hyx : y.strategyId ≠ x.strategyId := ne_of_around hnodup' (List.mem_append_right _ List.mem_cons_self)
  obtain ⟨others, hothers⟩ := @sideShare_swap pearson threshold minHistory before behind x y hsymmetric hnodup'
  rw [(hothers side).1, (hothers side).2]
  by_cases htied : Tied pearson threshold minHistory x y
  · rcases htwins x hx y hy hyx.symm htied with ⟨hwx, hwy⟩ | htwin
    · rw [shareAfter_eq_zero hwx, shareAfter_eq_zero hwy, zero_mul]
    · have hbefore : ∀ k ∈ before, k ∈ l ∧ k.strategyId ≠ x.strategyId ∧ k.strategyId ≠ y.strategyId := by
        intro k hk
        have hassoc : before ++ x :: y :: behind = (before ++ [x]) ++ y :: behind := by simp
        refine ⟨hreached.mem_iff.mp (List.mem_append_left _ hk), ne_of_around hnodup' (List.mem_append_left _ hk), ?_⟩
        rw [hassoc] at hnodup'
        exact ne_of_around hnodup' (List.mem_append_left _ (List.mem_append_left _ hk))
      have halike := shareAfter_of_twins htwin hbefore
      rw [shareAfter_perm hreached (List.Perm.refl _) x, shareAfter_perm hreached (List.Perm.refl _) y, halike]
      unfold onSide
      rw [htwin.direction]
      split_ifs <;> ring
  · rw [if_neg htied, mul_one, mul_one]

/-- Opposite sides that gain from opposite orders are not in one proportion. -/
theorem not_proportional {others others' a b : ℚ} (ha : 0 ≤ a) (hb : 0 ≤ b) (hab : 0 < a + b)
    (hlong : 0 < others + a * (1 / 4)) (hshort : 0 < others' + b * (1 / 4)) :
    (others + a * (1 / 4)) * (others' + b * (1 / 4)) < (others + a) * (others' + b) := by
  rcases ha.eq_or_lt with rfl | ha
  · have hb' : 0 < b := by linarith
    have hlong' : others + 0 * (1 / 4) = others + 0 := by ring
    rw [hlong'] at hlong ⊢
    exact mul_lt_mul_of_pos_left (by linarith) hlong
  · calc (others + a * (1 / 4)) * (others' + b * (1 / 4)) ≤ (others + a * (1 / 4)) * (others' + b) :=
          mul_le_mul_of_nonneg_left (by linarith) hlong.le
      _ < (others + a) * (others' + b) := mul_lt_mul_of_pos_right (by linarith) (by linarith)

/-- Neighbours that tie, where the order does not tell and both sides weigh, are alike. -/
theorem alike_of_verdict (hsymmetric : ∀ a b, pearson a b = pearson b a) {before behind : List CandidateSignalSeries}
    (hnodup : ((before ++ x :: y :: behind).map CandidateSignalSeries.strategyId).Nodup)
    (hvalid : ∀ s ∈ before ++ x :: y :: behind, ∀ c, s.confidence = some c → 0 ≤ c ∧ c ≤ 1)
    (hsides : ∀ side, ∃ s ∈ before ++ x :: y :: behind, s.direction = side ∧ 0 < s.weight)
    (htied : Tied pearson threshold minHistory x y) (hweight : ¬(x.weight ≤ 0 ∧ y.weight ≤ 0))
    (hverdict : verdict pearson threshold minHistory (before ++ x :: y :: behind) =
      verdict pearson threshold minHistory (before ++ y :: x :: behind)) :
    x.direction = y.direction ∧ shareAfter pearson threshold minHistory (before ++ x :: y :: behind) before x =
      shareAfter pearson threshold minHistory (before ++ x :: y :: behind) before y := by
  have hperm : (before ++ x :: y :: behind).Perm (before ++ y :: x :: behind) := (List.Perm.swap y x behind).append_left before
  have hpos : ∀ side, 0 < sideShare pearson threshold minHistory (before ++ x :: y :: behind) side := by
    intro side
    obtain ⟨s, hs, rfl, hw⟩ := hsides side
    exact sideShare_pos hvalid hs hw
  have hpos' : ∀ side, 0 < sideShare pearson threshold minHistory (before ++ y :: x :: behind) side := by
    intro side
    obtain ⟨s, hs, rfl, hw⟩ := hsides side
    exact sideShare_pos (fun k hk => hvalid k (hperm.mem_iff.mpr hk)) (hperm.mem_iff.mp hs) hw
  have hx : x ∈ before ++ x :: y :: behind := by simp
  have hy : y ∈ before ++ x :: y :: behind := by simp
  have ha : 0 ≤ shareAfter pearson threshold minHistory (before ++ x :: y :: behind) before x := shareAfter_nonneg (hvalid x hx)
  have hb : 0 ≤ shareAfter pearson threshold minHistory (before ++ x :: y :: behind) before y := shareAfter_nonneg (hvalid y hy)
  have hab : 0 < shareAfter pearson threshold minHistory (before ++ x :: y :: behind) before x +
      shareAfter pearson threshold minHistory (before ++ x :: y :: behind) before y := by
    by_cases hwx : 0 < x.weight
    · exact add_pos_of_pos_of_nonneg (shareAfter_pos (hvalid x hx) hwx) hb
    · have hwy : 0 < y.weight := not_le.mp fun h => hweight ⟨not_lt.mp hwx, h⟩
      exact add_pos_of_nonneg_of_pos ha (shareAfter_pos (hvalid y hy) hwy)
  have hproportion := balance_inj (add_pos (hpos .long) (hpos .short)) (add_pos (hpos' .long) (hpos' .short)) hverdict
  obtain ⟨others, hothers⟩ := @sideShare_swap pearson threshold minHistory before behind x y hsymmetric hnodup
  have hlong := hothers .long
  have hshort := hothers .short
  have hposLong := hpos .long
  have hposShort := hpos .short
  have hposLong' := hpos' .long
  have hposShort' := hpos' .short
  rw [if_pos htied] at hlong hshort
  rw [hlong.1] at hposLong hproportion
  rw [hlong.2] at hposLong' hproportion
  rw [hshort.1] at hposShort hproportion
  rw [hshort.2] at hposShort' hproportion
  unfold onSide at hposLong hposShort hposLong' hposShort' hproportion
  clear hlong hshort hothers
  revert hposLong hposShort hposLong' hposShort' hproportion ha hb hab
  generalize shareAfter pearson threshold minHistory (before ++ x :: y :: behind) before x = a
  generalize shareAfter pearson threshold minHistory (before ++ x :: y :: behind) before y = b
  generalize others .long = R
  generalize others .short = r
  intro ha hb hab hproportion hposLong hposShort hposLong' hposShort'
  cases hdx : x.direction <;> cases hdy : y.direction <;>
    simp only [hdx, hdy, if_true, if_false, reduceCtorEq, add_zero] at hposLong hposShort hposLong' hposShort' hproportion
  · refine ⟨rfl, ?_⟩
    have hcancel := mul_right_cancel₀ hposShort.ne' hproportion
    linarith
  · have hne := @not_proportional R r a b ha hb hab (by linarith) (by linarith)
    exact absurd hproportion hne.ne'
  · have hne := @not_proportional R r b a hb ha (by linarith) (by linarith) (by linarith)
    exact absurd hproportion hne.ne
  · refine ⟨rfl, ?_⟩
    have hcancel := mul_left_cancel₀ hposLong.ne' hproportion
    linarith

/-- The order does not tell exactly where all weight is on one side, or ties are between twins. -/
theorem verdict_perm_iff (hsymmetric : ∀ a b, pearson a b = pearson b a) (hnodup : (l.map CandidateSignalSeries.strategyId).Nodup)
    (hvalid : ∀ s ∈ l, ∀ c, s.confidence = some c → 0 ≤ c ∧ c ≤ 1) :
    (∀ l', l.Perm l' → verdict pearson threshold minHistory l' = verdict pearson threshold minHistory l) ↔
      OneSided l ∨ ∀ a ∈ l, ∀ b ∈ l, a.strategyId ≠ b.strategyId → Tied pearson threshold minHistory a b →
        (a.weight ≤ 0 ∧ b.weight ≤ 0) ∨ Twins pearson threshold minHistory l a b := by
  constructor
  · intro hsame
    rw [or_iff_not_imp_left]
    intro hsided a ha b hb hne htied
    rw [or_iff_not_imp_left]
    intro hweight
    have hsides : ∀ side, ∃ s ∈ l, s.direction = side ∧ 0 < s.weight := by
      have hboth : ∃ p ∈ l, ∃ q ∈ l, 0 < p.weight ∧ 0 < q.weight ∧ p.direction ≠ q.direction := by
        by_contra hno
        refine hsided fun p hp q hq hwp hwq => ?_
        by_contra hdirection
        exact hno ⟨p, hp, q, hq, hwp, hwq, hdirection⟩
      obtain ⟨p, hp, q, hq, hwp, hwq, hdirection⟩ := hboth
      intro side
      by_cases hside : p.direction = side
      · exact ⟨p, hp, hside, hwp⟩
      · refine ⟨q, hq, ?_, hwq⟩
        cases hp' : p.direction <;> cases hq' : q.direction <;> cases side <;> simp_all
    have hab : b ∈ l.erase a := (List.mem_erase_of_ne fun h => hne (by rw [h])).mpr hb
    have hreach : l.Perm (a :: b :: (l.erase a).erase b) :=
      (List.perm_cons_erase ha).trans ((List.perm_cons_erase hab).cons a)
    have halike : ∀ before behind, l.Perm (before ++ a :: b :: behind) → a.direction = b.direction ∧
        shareAfter pearson threshold minHistory l before a = shareAfter pearson threshold minHistory l before b := by
      intro before behind hperm
      have hswapped : l.Perm (before ++ b :: a :: behind) := hperm.trans ((List.Perm.swap b a behind).append_left before)
      have hresult := @alike_of_verdict pearson threshold minHistory a b hsymmetric before behind ((hperm.map _).nodup_iff.mp hnodup)
        (fun s hs => hvalid s (hperm.mem_iff.mpr hs))
        (fun side => by
          obtain ⟨s, hs, hrest⟩ := hsides side
          exact ⟨s, hperm.mem_iff.mp hs, hrest⟩)
        htied hweight ((hsame _ hperm).trans (hsame _ hswapped).symm)
      rw [shareAfter_perm hperm (List.Perm.refl before) a, shareAfter_perm hperm (List.Perm.refl before) b]
      exact hresult
    have hstanding := (halike [] _ hreach).2
    rw [shareAfter_nil, shareAfter_nil] at hstanding
    have hpositive : 0 < standing pearson threshold minHistory l a := by
      by_cases hwa : 0 < a.weight
      · rw [← shareAfter_nil]
        exact shareAfter_pos (hvalid a ha) hwa
      · have hwb : 0 < b.weight := not_le.mp fun h => hweight ⟨not_lt.mp hwa, h⟩
        rw [hstanding, ← shareAfter_nil]
        exact shareAfter_pos (hvalid b hb) hwb
    refine ⟨(halike [] _ hreach).1, hstanding, fun k hk hka hkb => ?_⟩
    -- a third signal in front of both penalizes both or neither
    have hkl : k ∈ (l.erase a).erase b := by
      rw [List.mem_erase_of_ne fun h => hkb (by rw [h]), List.mem_erase_of_ne fun h => hka (by rw [h])]
      exact hk
    have hfront : l.Perm ([k] ++ a :: b :: ((l.erase a).erase b).erase k) := by
      refine hreach.trans ((((List.perm_cons_erase hkl).cons b).cons a).trans ?_)
      exact ((List.Perm.swap k b _).cons a).trans (List.Perm.swap k a _)
    have hbehind := (halike [k] _ hfront).2
    have hsnoc : ∀ s, shareAfter pearson threshold minHistory l [k] s =
        standing pearson threshold minHistory l s * if Tied pearson threshold minHistory s k then 1 / 4 else 1 :=
      fun s => shareAfter_append l [] s k
    rw [hsnoc, hsnoc, ← hstanding] at hbehind
    have hcancel := mul_left_cancel₀ hpositive.ne' hbehind
    split_ifs at hcancel with h h'
    · exact ⟨fun _ => h', fun _ => h⟩
    · norm_num at hcancel
    · norm_num at hcancel
    · exact ⟨fun hh => absurd hh h, fun hh => absurd hh ‹_›⟩
  · rintro (hsided | htwins) l' hperm
    · exact OneSided.verdict_perm hvalid hsided hperm
    · unfold verdict
      rw [sideShare_perm hsymmetric hnodup htwins hperm, sideShare_perm hsymmetric hnodup htwins hperm]

end Verdicts

/-! ## Ensembles -/

section Ensembles

variable {request : SignalEnsembleRequest} {minDirectionSources : ℤ} {regime : Option MarketRegime} {signals signals' : List CandidateSignalSeries}

theorem ValidSignals.perm (h : ValidSignals signals) (hperm : signals.Perm signals') : ValidSignals signals' :=
  ⟨(hperm.map _).nodup_iff.mp h.nodup, fun s hs => h.confidences s (hperm.mem_iff.mpr hs)⟩

theorem ValidSignals.sublist (h : ValidSignals signals) (hsub : signals'.Sublist signals) : ValidSignals signals' :=
  ⟨(hsub.map _).nodup h.nodup, fun s hs => h.confidences s (hsub.subset hs)⟩

theorem ValidSignals.eligible (h : ValidSignals signals) : ValidSignals (eligibleOf minDirectionSources regime signals) :=
  ValidSignals.sublist h (eligibleOf_sublist signals)

theorem ValidSignals.flipped (h : ValidSignals signals) : ValidSignals (signals.map CandidateSignalSeries.flipped) := by
  refine ⟨by rw [unseen_flipped.ids]; exact h.nodup, fun s hs => ?_⟩
  obtain ⟨k, hk, rfl⟩ := List.mem_map.mp hs
  exact h.confidences k hk

theorem ValidSignals.withConfidence (h : ValidSignals signals) (id : String) {c : ℚ} (hc : 0 ≤ c ∧ c ≤ 1) :
    ValidSignals (withConfidence id c signals) := by
  refine ⟨?_, fun s hs => ?_⟩
  · have hids := (unseen_withConfidence id c).ids signals
    unfold TradingPlatform.withConfidence
    rw [hids]
    exact h.nodup
  · obtain ⟨k, hk, rfl⟩ := List.mem_map.mp hs
    split_ifs
    · rintro c' hc'
      rw [← Option.some.inj hc']
      exact hc
    · exact h.confidences k hk

/-- The ensemble gives the verdict on the signals that may vote. -/
theorem fused_eq (hsymmetric : ∀ a b, pearson a b = pearson b a) (h : ValidSignals signals) :
    fused pearson request minDirectionSources regime signals =
      verdict pearson request.correlationThreshold request.minHistory (eligibleOf minDirectionSources regime signals) := by
  have heligible : ValidSignals (eligibleOf minDirectionSources regime signals) := ValidSignals.eligible h
  exact finalizeVotes_verdict { request with signals } hsymmetric heligible.nodup heligible.confidences

theorem counted_of_le {confidence : Option ℚ} {c : ℚ} (hne : c ≠ 0) (hnonneg : 0 ≤ c) (hle : c ≤ confidence.getD 1) :
    counted (some c) ≤ counted confidence := by
  have hself : counted (some c) = c := if_neg hne
  rw [hself]
  cases confidence with
  | none => exact hle
  | some c' =>
    have hpos : 0 < c := lt_of_le_of_ne hnonneg (Ne.symm hne)
    have hne' : c' ≠ 0 := (hpos.trans_le hle).ne'
    have hself' : counted (some c') = c' := if_neg hne'
    rw [hself']
    exact hle

theorem shareAt_mono (l : List CandidateSignalSeries) (s : CandidateSignalSeries) {c c' : ℚ} (h : c ≤ c') :
    shareAt pearson threshold minHistory l s c ≤ shareAt pearson threshold minHistory l s c' := by
  unfold shareAt
  gcongr

/-- A lowered vote carries no more than it did, or what it would in full. -/
theorem lowered_share (l : List CandidateSignalSeries) (s : CandidateSignalSeries) {c : ℚ} (hnonneg : 0 ≤ c) (hle : c ≤ s.confidence.getD 1) :
    shareAt pearson threshold minHistory l s (counted (some c)) = shareAt pearson threshold minHistory l s 1 ∨
      shareAt pearson threshold minHistory l s (counted (some c)) ≤ share pearson threshold minHistory l s := by
  by_cases hzero : c = 0
  · subst hzero
    exact Or.inl rfl
  · exact Or.inr (shareAt_mono l s (counted_of_le hzero hnonneg hle))

theorem share_of_weightless (l : List CandidateSignalSeries) {s : CandidateSignalSeries} (h : s.weight ≤ 0) (c : ℚ) :
    shareAt pearson threshold minHistory l s c = 0 := by
  unfold shareAt
  rw [max_eq_right h, zero_mul, zero_mul]

/-- The votes of the ensemble are those of the signals that may vote. -/
theorem rawVotes_eq : (layeredEnsemble pearson request minDirectionSources regime signals).rawVotes =
    votesOf (correlationFilter pearson request.correlationThreshold request.minHistory (eligibleOf minDirectionSources regime signals)) := by
  change (finalizeVotes _ (votesOf (correlationFilter pearson request.correlationThreshold request.minHistory
    (eligibleOf minDirectionSources regime signals)))).rawVotes = _
  unfold finalizeVotes
  split_ifs with hnil
  · exact hnil.symm
  · rfl

/-- The order of the signals tells where that of the signals that may vote does. -/
theorem fused_perm_iff (hsymmetric : ∀ a b, pearson a b = pearson b a) (hvalid : ValidSignals signals) :
    (∀ signals', signals.Perm signals' →
      fused pearson request minDirectionSources regime signals' = fused pearson request minDirectionSources regime signals) ↔
    ∀ l', (eligibleOf minDirectionSources regime signals).Perm l' →
      verdict pearson request.correlationThreshold request.minHistory l' =
        verdict pearson request.correlationThreshold request.minHistory (eligibleOf minDirectionSources regime signals) := by
  constructor
  · intro hsame l' hperm
    obtain ⟨signals', hperm', rfl⟩ := eligibleOf_reached hperm
    have hfused := hsame signals' hperm'
    rw [fused_eq hsymmetric (ValidSignals.perm hvalid hperm'), fused_eq hsymmetric hvalid] at hfused
    exact hfused
  · intro hsame signals' hperm
    rw [fused_eq hsymmetric (ValidSignals.perm hvalid hperm), fused_eq hsymmetric hvalid]
    exact hsame _ (eligibleOf_perm hperm)

theorem fused_flipped (hsymmetric : ∀ a b, pearson a b = pearson b a) (hvalid : ValidSignals signals) :
    fused pearson request minDirectionSources regime (signals.map CandidateSignalSeries.flipped) =
      balance (sideShare pearson request.correlationThreshold request.minHistory (eligibleOf minDirectionSources regime signals) .short)
        (sideShare pearson request.correlationThreshold request.minHistory (eligibleOf minDirectionSources regime signals) .long) := by
  rw [fused_eq hsymmetric (ValidSignals.flipped hvalid), eligibleOf_flipped]
  unfold verdict
  rw [sideShare_flipped, sideShare_flipped]
  rfl

/-- The verdict with the confidence of a signal set. -/
theorem fused_withConfidence (hsymmetric : ∀ a b, pearson a b = pearson b a) (hvalid : ValidSignals signals) {s : CandidateSignalSeries}
    (hs : s ∈ eligibleOf minDirectionSources regime signals) {c : ℚ} (hc : 0 ≤ c ∧ c ≤ 1) :
    fused pearson request minDirectionSources regime (withConfidence s.strategyId c signals) =
      verdict pearson request.correlationThreshold request.minHistory
        (withConfidence s.strategyId c (eligibleOf minDirectionSources regime signals)) := by
  rw [fused_eq hsymmetric (ValidSignals.withConfidence hvalid _ hc), eligibleOf_withConfidence hs]

/-- The weaker short side stays the weaker when a vote of it is lowered, where it would in full. -/
theorem verdict_lowered_short (hvalid : ValidSignals l) {s : CandidateSignalSeries} (hs : s ∈ l) (hside : s.direction = .short)
    (hless : sideShare pearson threshold minHistory l .short < sideShare pearson threshold minHistory l .long)
    (htips : sideShare pearson threshold minHistory l .short - share pearson threshold minHistory l s + shareAt pearson threshold minHistory l s 1 ≤
      sideShare pearson threshold minHistory l .long) {c : ℚ} (hc : 0 ≤ c ∧ c ≤ 1) (hle : c ≤ s.confidence.getD 1) :
    (verdict pearson threshold minHistory (withConfidence s.strategyId c l)).1 = some .long := by
  have hown := @sideShare_withConfidence pearson threshold minHistory l hvalid.nodup s hs c
  have hother := @sideShare_withConfidence_other pearson threshold minHistory l hvalid.nodup s hs c .long (by rw [hside]; decide)
  have hnonneg : 0 ≤ sideShare pearson threshold minHistory l .short := sideShare_nonneg hvalid.confidences .short
  have hnonneg' : 0 ≤ sideShare pearson threshold minHistory (withConfidence s.strategyId c l) .short :=
    sideShare_nonneg (ValidSignals.withConfidence hvalid _ hc).confidences .short
  rw [hside] at hown
  have hle' : sideShare pearson threshold minHistory (withConfidence s.strategyId c l) .short ≤ sideShare pearson threshold minHistory l .long := by
    rw [hown]
    rcases @lowered_share pearson threshold minHistory l s c hc.1 hle with heq | hshare
    · rw [heq]
      exact htips
    · linarith
  refine balance_long.mpr ⟨?_, ?_⟩
  · rw [hother]
    exact (add_pos_of_pos_of_nonneg (hnonneg.trans_lt hless) hnonneg').ne'
  · rw [hother]
    exact hle'

/-- The weaker long side stays the weaker when a vote of it is lowered, where it would in full. -/
theorem verdict_lowered_long (hvalid : ValidSignals l) {s : CandidateSignalSeries} (hs : s ∈ l) (hside : s.direction = .long)
    (hless : sideShare pearson threshold minHistory l .long < sideShare pearson threshold minHistory l .short)
    (htips : sideShare pearson threshold minHistory l .long - share pearson threshold minHistory l s + shareAt pearson threshold minHistory l s 1 <
      sideShare pearson threshold minHistory l .short) {c : ℚ} (hc : 0 ≤ c ∧ c ≤ 1) (hle : c ≤ s.confidence.getD 1) :
    (verdict pearson threshold minHistory (withConfidence s.strategyId c l)).1 = some .short := by
  have hown := @sideShare_withConfidence pearson threshold minHistory l hvalid.nodup s hs c
  have hother := @sideShare_withConfidence_other pearson threshold minHistory l hvalid.nodup s hs c .short (by rw [hside]; decide)
  have hnonneg : 0 ≤ sideShare pearson threshold minHistory l .long := sideShare_nonneg hvalid.confidences .long
  have hnonneg' : 0 ≤ sideShare pearson threshold minHistory (withConfidence s.strategyId c l) .long :=
    sideShare_nonneg (ValidSignals.withConfidence hvalid _ hc).confidences .long
  rw [hside] at hown
  have hlt : sideShare pearson threshold minHistory (withConfidence s.strategyId c l) .long < sideShare pearson threshold minHistory l .short := by
    rw [hown]
    rcases @lowered_share pearson threshold minHistory l s c hc.1 hle with heq | hshare
    · rw [heq]
      exact htips
    · linarith
  refine balance_short.mpr ⟨?_, ?_⟩
  · rw [hother]
    exact (add_pos_of_nonneg_of_pos hnonneg' (hnonneg.trans_lt hless)).ne'
  · rw [hother]
    exact hlt

/-- A vote against the fused direction is that of a signal of the weaker side. -/
theorem exists_of_vote (hsymmetric : ∀ a b, pearson a b = pearson b a) (hvalid : ValidSignals signals) {vote : SignalVote} :
    vote ∈ (layeredEnsemble pearson request minDirectionSources regime signals).rawVotes ↔
      ∃ s ∈ eligibleOf minDirectionSources regime signals, 0 < s.weight ∧ vote = voteOf (s, s.weight *
        (1 / 4) ^ losses pearson request.correlationThreshold request.minHistory (eligibleOf minDirectionSources regime signals) s) := by
  rw [rawVotes_eq]
  exact mem_votesOf hsymmetric (ValidSignals.eligible hvalid).nodup

end Ensembles

end EnsembleFairnessAux

open EnsembleFairnessAux

section Statement

variable {pearson : List ℚ → List ℚ → ℚ} {request : SignalEnsembleRequest} {minDirectionSources : ℤ} {regime : Option MarketRegime}
  {signals : List CandidateSignalSeries}

/-- With all weight on one side the ensemble is fair. -/
theorem FairEnsemble.of_oneSided (hsymmetric : ∀ a b, pearson a b = pearson b a) (hvalid : ValidSignals signals)
    (h : OneSided (eligibleOf minDirectionSources regime signals)) : FairEnsemble pearson request minDirectionSources regime signals := by
  have heligible : ValidSignals (eligibleOf minDirectionSources regime signals) := ValidSignals.eligible hvalid
  have huneven : sideShare pearson request.correlationThreshold request.minHistory (eligibleOf minDirectionSources regime signals) .long +
        sideShare pearson request.correlationThreshold request.minHistory (eligibleOf minDirectionSources regime signals) .short = 0 ∨
      sideShare pearson request.correlationThreshold request.minHistory (eligibleOf minDirectionSources regime signals) .long ≠
        sideShare pearson request.correlationThreshold request.minHistory (eligibleOf minDirectionSources regime signals) .short := by
    by_cases hnone : ∀ s ∈ eligibleOf minDirectionSources regime signals, s.weight ≤ 0
    · left
      rw [sideShare_eq_zero fun s hs _ => hnone s hs, sideShare_eq_zero fun s hs _ => hnone s hs, add_zero]
    · right
      rw [not_forall] at hnone
      obtain ⟨s, hs⟩ := hnone
      rw [Classical.not_imp, not_le] at hs
      have hpos : 0 < sideShare pearson request.correlationThreshold request.minHistory (eligibleOf minDirectionSources regime signals)
          s.direction := sideShare_pos heligible.confidences hs.1 hs.2
      have hother : sideShare pearson request.correlationThreshold request.minHistory (eligibleOf minDirectionSources regime signals)
          s.direction.opposite = 0 := OneSided.other_side h hs.1 hs.2
      cases hside : s.direction with
      | long =>
        rw [hside] at hpos hother
        exact fun heq => hpos.ne' (heq.trans hother)
      | short =>
        rw [hside] at hpos hother
        exact fun heq => hpos.ne' (heq.symm.trans hother)
  refine ⟨?_, ?_, fun htie => ?_, fun direction hdirection vote hvote hagainst c hnonneg hle => ?_⟩
  · exact (fused_perm_iff hsymmetric hvalid).mpr fun l' hperm => OneSided.verdict_perm heligible.confidences h hperm
  · rw [fused_flipped hsymmetric hvalid, fused_eq hsymmetric hvalid]
    exact balance_comm huneven
  · rw [rawVotes_eq, sideScore_filter hsymmetric heligible.nodup, sideScore_filter hsymmetric heligible.nodup] at htie
    rw [fused_eq hsymmetric hvalid]
    unfold verdict balance
    rw [if_pos (huneven.resolve_right (not_not_intro htie))]
  · obtain ⟨s, hs, hweight, rfl⟩ := (exists_of_vote hsymmetric hvalid).mp hvote
    rw [fused_eq hsymmetric hvalid, verdict_of_one heligible.confidences h hs hweight] at hdirection
    exact absurd (Option.some.inj hdirection) hagainst

/-- Even-handed shares make the ensemble fair. -/
theorem FairEnsemble.of_evenHanded (hsymmetric : ∀ a b, pearson a b = pearson b a) (hvalid : ValidSignals signals)
    (h : EvenHanded pearson request.correlationThreshold request.minHistory (eligibleOf minDirectionSources regime signals)) :
    FairEnsemble pearson request minDirectionSources regime signals := by
  have heligible : ValidSignals (eligibleOf minDirectionSources regime signals) := ValidSignals.eligible hvalid
  refine ⟨?_, ?_, fun htie => ?_, fun direction hdirection vote hvote hagainst c hnonneg hle => ?_⟩
  · exact (fused_perm_iff hsymmetric hvalid).mpr
      ((verdict_perm_iff hsymmetric heligible.nodup heligible.confidences).mpr (Or.inr h.twins))
  · rw [fused_flipped hsymmetric hvalid, fused_eq hsymmetric hvalid]
    exact balance_comm (Or.inr h.uneven)
  · rw [rawVotes_eq, sideScore_filter hsymmetric heligible.nodup, sideScore_filter hsymmetric heligible.nodup] at htie
    exact absurd htie h.uneven
  · obtain ⟨s, hs, hweight, rfl⟩ := (exists_of_vote hsymmetric hvalid).mp hvote
    change s.direction ≠ direction at hagainst
    change c ≤ s.confidence.getD 1 at hle
    change (fused pearson request minDirectionSources regime (withConfidence s.strategyId c signals)).1 = some direction
    have hone : c ≤ 1 := by
      refine hle.trans ?_
      cases hconfidence : s.confidence with
      | none => exact le_rfl
      | some c' => exact (heligible.confidences s hs c' hconfidence).2
    rw [fused_eq hsymmetric hvalid] at hdirection
    rw [fused_withConfidence hsymmetric hvalid hs ⟨hnonneg, hone⟩]
    cases direction with
    | long =>
      have hside : s.direction = .short := opposite_of_ne hagainst
      have hless := lt_of_le_of_ne (balance_long.mp hdirection).2 h.uneven.symm
      exact verdict_lowered_short heligible hs hside hless (h.shortTips s hs hside hless) ⟨hnonneg, hone⟩ hle
    | short =>
      have hside : s.direction = .long := opposite_of_ne hagainst
      have hless := (balance_short.mp hdirection).2
      exact verdict_lowered_long heligible hs hside hless (h.longTips s hs hside hless) ⟨hnonneg, hone⟩ hle

/-- A fair ensemble has all weight on one side, or even-handed shares. -/
theorem FairEnsemble.evenHanded (hsymmetric : ∀ a b, pearson a b = pearson b a) (hvalid : ValidSignals signals)
    (h : FairEnsemble pearson request minDirectionSources regime signals)
    (hsided : ¬OneSided (eligibleOf minDirectionSources regime signals)) :
    EvenHanded pearson request.correlationThreshold request.minHistory (eligibleOf minDirectionSources regime signals) := by
  have heligible : ValidSignals (eligibleOf minDirectionSources regime signals) := ValidSignals.eligible hvalid
  have hlong : 0 ≤ sideShare pearson request.correlationThreshold request.minHistory (eligibleOf minDirectionSources regime signals) .long :=
    sideShare_nonneg heligible.confidences .long
  have hshort : 0 ≤ sideShare pearson request.correlationThreshold request.minHistory (eligibleOf minDirectionSources regime signals) .short :=
    sideShare_nonneg heligible.confidences .short
  have hfull : counted (some 0) = 1 := by simp [counted]
  have hzero : ∀ s : CandidateSignalSeries, s ∈ eligibleOf minDirectionSources regime signals → 0 ≤ s.confidence.getD 1 := by
    intro s hs
    cases hconfidence : s.confidence with
    | none => exact zero_le_one
    | some c => exact (heligible.confidences s hs c hconfidence).1
  -- a vote against the fused direction leaves it when it is lowered to nothing
  have hlowered : ∀ direction, (verdict pearson request.correlationThreshold request.minHistory
      (eligibleOf minDirectionSources regime signals)).1 = some direction →
      ∀ s ∈ eligibleOf minDirectionSources regime signals, 0 < s.weight → s.direction ≠ direction →
      (verdict pearson request.correlationThreshold request.minHistory
        (withConfidence s.strategyId 0 (eligibleOf minDirectionSources regime signals))).1 = some direction := by
    intro direction hdirection s hs hweight hagainst
    rw [← fused_withConfidence hsymmetric hvalid hs ⟨le_rfl, zero_le_one⟩]
    rw [← fused_eq hsymmetric hvalid] at hdirection
    exact h.lower direction hdirection _ ((exists_of_vote hsymmetric hvalid).mpr ⟨s, hs, hweight, rfl⟩) hagainst 0 le_rfl (hzero s hs)
  refine ⟨?_, ?_, fun s hs hside hless => ?_, fun s hs hside hless => ?_⟩
  · have hperm := (fused_perm_iff hsymmetric hvalid).mp h.perm
    exact ((verdict_perm_iff hsymmetric heligible.nodup heligible.confidences).mp hperm).resolve_left hsided
  · have hmirror := h.mirror
    rw [fused_flipped hsymmetric hvalid, fused_eq hsymmetric hvalid] at hmirror
    refine (uneven_of_balance_comm hmirror).resolve_left fun hnothing => hsided fun a ha b hb hwa hwb => ?_
    have hpos : 0 < sideShare pearson request.correlationThreshold request.minHistory (eligibleOf minDirectionSources regime signals)
        a.direction := sideShare_pos heligible.confidences ha hwa
    cases hdirection : a.direction <;> rw [hdirection] at hpos <;> linarith
  · by_cases hweight : 0 < s.weight
    · have hdirection : (verdict pearson request.correlationThreshold request.minHistory
          (eligibleOf minDirectionSources regime signals)).1 = some .long := balance_long.mpr ⟨by linarith, hless.le⟩
      have hkept := (balance_long.mp (hlowered .long hdirection s hs hweight (by rw [hside]; decide))).2
      have hown := @sideShare_withConfidence pearson request.correlationThreshold request.minHistory _ heligible.nodup s hs 0
      rw [hside, hfull] at hown
      rw [hown, sideShare_withConfidence_other heligible.nodup hs 0 (by rw [hside]; decide)] at hkept
      exact hkept
    · have hw := not_lt.mp hweight
      rw [share, share_of_weightless _ hw, share_of_weightless _ hw]
      linarith
  · by_cases hweight : 0 < s.weight
    · have hdirection : (verdict pearson request.correlationThreshold request.minHistory
          (eligibleOf minDirectionSources regime signals)).1 = some .short := balance_short.mpr ⟨by linarith, hless⟩
      have hkept := (balance_short.mp (hlowered .short hdirection s hs hweight (by rw [hside]; decide))).2
      have hown := @sideShare_withConfidence pearson request.correlationThreshold request.minHistory _ heligible.nodup s hs 0
      rw [hside, hfull] at hown
      rw [hown, sideShare_withConfidence_other heligible.nodup hs 0 (by rw [hside]; decide)] at hkept
      exact hkept
    · have hw := not_lt.mp hweight
      rw [share, share_of_weightless _ hw, share_of_weightless _ hw]
      linarith

end Statement

/-- The ensemble is fair exactly where all weight is on one side, or the shares are even-handed. -/
theorem ensemble_fair {pearson : List ℚ → List ℚ → ℚ} (hsymmetric : ∀ a b, pearson a b = pearson b a) {request : SignalEnsembleRequest}
    {minDirectionSources : ℤ} {regime : Option MarketRegime} {signals : List CandidateSignalSeries} (hvalid : ValidSignals signals) :
    FairEnsemble pearson request minDirectionSources regime signals ↔
      OneSided (eligibleOf minDirectionSources regime signals) ∨
        EvenHanded pearson request.correlationThreshold request.minHistory (eligibleOf minDirectionSources regime signals) := by
  constructor
  · intro hfair
    rw [or_iff_not_imp_left]
    exact hfair.evenHanded hsymmetric hvalid
  · rintro (hsided | heven)
    · exact FairEnsemble.of_oneSided hsymmetric hvalid hsided
    · exact FairEnsemble.of_evenHanded hsymmetric hvalid heven

/-! ## On fixed signals -/

/-- Two range signals without a history, the second weighing and confident as given. -/
def rangeSignals (weight confidence : ℚ) : List CandidateSignalSeries :=
  [{ strategyId := "technical_vwap:v1", direction := .long, confidence := some 1 },
    { strategyId := "technical_bollinger:v1", direction := .short, weight, confidence := some confidence }]

theorem rangeSignals_valid (weight : ℚ) {confidence : ℚ} (h : 0 ≤ confidence ∧ confidence ≤ 1) :
    ValidSignals (rangeSignals weight confidence) := by
  refine ⟨?_, fun s hs c hc => ?_⟩
  · change List.Nodup ["technical_vwap:v1", "technical_bollinger:v1"]
    decide
  · rcases List.mem_cons.mp hs with rfl | hs
    · rw [← Option.some.inj hc]
      exact ⟨zero_le_one, le_rfl⟩
    · rw [List.mem_singleton.mp hs] at hc
      rw [← Option.some.inj hc]
      exact h

theorem ensemble_fair_uneven : FairEnsemble (fun _ _ => 0) { signals := [] } 3 (some .range) (rangeSignals (1 / 2) (1 / 4)) := by
  refine (ensemble_fair (fun _ _ => rfl) (rangeSignals_valid (1 / 2) (by norm_num))).mpr (Or.inr ⟨?_, ?_, ?_, ?_⟩)
  · have hnone : ∀ a ∈ eligibleOf 3 (some .range) (rangeSignals (1 / 2) (1 / 4)), ∀ b ∈ eligibleOf 3 (some .range) (rangeSignals (1 / 2) (1 / 4)),
        ¬Tied (fun _ _ => 0) (75 / 100) 200 a b := by decide +kernel
    exact fun a ha b hb _ htied => absurd htied (hnone a ha b hb)
  · decide +kernel
  · decide +kernel
  · decide +kernel

/-- An exact tie goes to the long side, and so does its mirror image. -/
theorem ensemble_fair_tie : ¬∀ (pearson : List ℚ → List ℚ → ℚ), (∀ a b, pearson a b = pearson b a) →
    ∀ (request : SignalEnsembleRequest) (minDirectionSources : ℤ) (regime : Option MarketRegime) (signals : List CandidateSignalSeries),
      ValidSignals signals → FairEnsemble pearson request minDirectionSources regime signals := by
  intro h
  have hfair := h (fun _ _ => 0) (fun _ _ => rfl) { signals := [] } 3 (some .range) (rangeSignals 1 1)
    (rangeSignals_valid 1 ⟨zero_le_one, le_rfl⟩)
  exact absurd hfair.mirror (by decide +kernel)

end TradingPlatform
