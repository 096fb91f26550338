import Mathlib.Algebra.Order.BigOperators.Group.List
import Mathlib.Algebra.Order.Field.Basic
import Mathlib.Data.List.Induction
import Mathlib.Tactic.FieldSimp
import Mathlib.Tactic.Linarith
import Mathlib.Tactic.Ring
import TradingPlatform.Engine.SignalEnsemble
import TradingPlatform.Lib.Table

/-!
# The weighted mean

The score of the ensemble is a sum over sources, in which the last signal of a source stands for all of them, over a weight that counts
every signal. It is the weighted mean where what is replaced does not count.
-/

namespace TradingPlatform

/-! ## The statement -/

/-- The signal of the other side. -/
def TradeSignal.flipped (s : TradeSignal) : TradeSignal := { s with side := s.side.opposite }

/-- The weight of the signals of a family and a side. -/
def familyWeight (signals : List WeightedSignal) (side : Direction) (family : StrategyFamily) : ℚ :=
  ((signals.filter fun ws => decide (ws.signal.side = side ∧ ws.family = family)).map WeightedSignal.finalWeight).sum

/-- Two results of the same signals are the same, up to the choice among equally heavy families. -/
structure SameEnsemble (signals : List WeightedSignal) (a b : EnsembleResult) : Prop where
  side : a.finalSide = b.finalSide
  score : a.finalScore = b.finalScore
  confidence : a.confidence = b.confidence
  family : ∀ side, a.finalSide = some side →
    a.selectedFamily.map (familyWeight signals side) = b.selectedFamily.map (familyWeight signals side)
  noFamily : a.finalSide = none → a.selectedFamily = none ∧ b.selectedFamily = none
  contributors : ∀ source, Json.get source a.contributors = Json.get source b.contributors
  long : a.longWeight = b.longWeight
  short : a.shortWeight = b.shortWeight
  total : a.totalWeight = b.totalWeight

/-- Two results mirror each other. -/
structure MirroredEnsemble (a b : EnsembleResult) : Prop where
  side : b.finalSide = a.finalSide.map Direction.opposite
  score : b.finalScore = -a.finalScore
  confidence : b.confidence = a.confidence
  family : b.selectedFamily = a.selectedFamily
  contributors : b.contributors = a.contributors.map fun e => (e.1, -e.2)
  long : b.longWeight = a.shortWeight
  short : b.shortWeight = a.longWeight
  total : b.totalWeight = a.totalWeight

/-- The weights and the thresholds of an ensemble. -/
structure ValidEnsemble (service : WeightedEnsembleService) (selector : StrategyFamilySelector) (regime : RegimeWeight)
    (signals : List TradeSignal) : Prop where
  confidences : ∀ s ∈ signals, ∀ c, s.confidence = some c → 0 ≤ c ∧ c ≤ 1
  baseWeights : ∀ family weight, selector.baseWeights family = some weight → 0 ≤ weight
  regimeWeights : 0 ≤ regime.trendPullback ∧ 0 ≤ regime.breakout ∧ 0 ≤ regime.rangeMeanReversion ∧ 0 ≤ regime.momentumContinuation
  long : 0 < service.longThreshold ∧ service.longThreshold < 1
  short : -1 < service.shortThreshold ∧ service.shortThreshold < 0
  minimum : 0 < service.minTotalWeight

section Ensemble

variable (service : WeightedEnsembleService) (selector : StrategyFamilySelector) (regime : RegimeWeight)

/-- The result of some signals. -/
def ensembleOf (signals : List TradeSignal) : EnsembleResult := service.aggregate (selector.classifyAndWeight signals regime)

/-- Where the weight suffices, the result is the weighted mean, of no order and no side. -/
structure IsWeightedMean (signals : List TradeSignal) : Prop where
  mean : service.minTotalWeight ≤ (ensembleOf service selector regime signals).totalWeight →
    (ensembleOf service selector regime signals).finalScore =
      ((ensembleOf service selector regime signals).longWeight - (ensembleOf service selector regime signals).shortWeight) /
        (ensembleOf service selector regime signals).totalWeight
  score_mem : service.minTotalWeight ≤ (ensembleOf service selector regime signals).totalWeight →
    -1 ≤ (ensembleOf service selector regime signals).finalScore ∧ (ensembleOf service selector regime signals).finalScore ≤ 1
  confidence_mem : service.minTotalWeight ≤ (ensembleOf service selector regime signals).totalWeight →
    0 ≤ (ensembleOf service selector regime signals).confidence ∧ (ensembleOf service selector regime signals).confidence ≤ 1
  perm : service.minTotalWeight ≤ (ensembleOf service selector regime signals).totalWeight → ∀ signals', signals.Perm signals' →
    SameEnsemble (selector.classifyAndWeight signals regime) (ensembleOf service selector regime signals)
      (ensembleOf service selector regime signals')
  mirror : service.minTotalWeight ≤ (ensembleOf service selector regime signals).totalWeight →
    service.shortThreshold = -service.longThreshold →
    MirroredEnsemble (ensembleOf service selector regime signals) (ensembleOf service selector regime (signals.map TradeSignal.flipped))

/-- The signals that no later signal of their source replaces. -/
@[grind =] def survivors : List WeightedSignal → List WeightedSignal
  | [] => []
  | ws :: rest => if ws.signal.source ∈ rest.map fun ws => ws.signal.source then survivors rest else ws :: survivors rest

/-- The signals of a source weigh alike on one side, and what is replaced does not count on the whole. -/
structure RepeatsCancel (signals : List WeightedSignal) : Prop where
  alike : ∀ a ∈ signals, ∀ b ∈ signals, a.signal.source = b.signal.source → a.weightedScore = b.weightedScore
  cancel : ((survivors signals).map WeightedSignal.weightedScore).sum = (signals.map WeightedSignal.weightedScore).sum

end Ensemble

namespace WeightedMeanAux

variable {l l' : List WeightedSignal} {ws : WeightedSignal}

/-! ## Survivors -/

theorem mem_of_mem_survivors (h : ws ∈ survivors l) : ws ∈ l := by
  induction l with
  | nil => exact h
  | cons a rest ih =>
    rw [survivors] at h
    split_ifs at h with hlater
    · exact List.mem_cons_of_mem a (ih h)
    · rcases List.mem_cons.mp h with rfl | h
      · exact List.mem_cons_self
      · exact List.mem_cons_of_mem a (ih h)

/-- Some signal of each source survives. -/
theorem exists_survivor (h : ws ∈ l) : ∃ a ∈ survivors l, a.signal.source = ws.signal.source := by
  induction l generalizing ws with
  | nil => nomatch h
  | cons a rest ih =>
    rw [survivors]
    rcases List.mem_cons.mp h with rfl | h
    · split_ifs with hlater
      · obtain ⟨b, hb, hsource⟩ := List.mem_map.mp hlater
        obtain ⟨c, hc, hsource'⟩ := ih hb
        exact ⟨c, hc, hsource'.trans hsource⟩
      · exact ⟨ws, List.mem_cons_self, rfl⟩
    · obtain ⟨c, hc, hsource⟩ := ih h
      split_ifs
      · exact ⟨c, hc, hsource⟩
      · exact ⟨c, List.mem_cons_of_mem a hc, hsource⟩

/-- The last signal takes the place of those of its source. -/
theorem survivors_append (l : List WeightedSignal) (ws : WeightedSignal) :
    survivors (l ++ [ws]) = ((survivors l).filter fun a => decide (a.signal.source ≠ ws.signal.source)) ++ [ws] := by
  induction l with
  | nil => simp [survivors]
  | cons a rest ih =>
    rw [List.cons_append, survivors, survivors, ih]
    by_cases hlater : a.signal.source ∈ rest.map fun ws => ws.signal.source
    · have hlater' : a.signal.source ∈ (rest ++ [ws]).map fun ws => ws.signal.source := by
        rw [List.map_append]
        exact List.mem_append_left _ hlater
      rw [if_pos hlater, if_pos hlater']
    · by_cases hsame : a.signal.source = ws.signal.source
      · have hlater' : a.signal.source ∈ (rest ++ [ws]).map fun ws => ws.signal.source := by
          rw [hsame]
          simp
        rw [if_neg hlater, if_pos hlater', List.filter_cons_of_neg (by simpa using hsame)]
      · have hlater' : a.signal.source ∉ (rest ++ [ws]).map fun ws => ws.signal.source := by
          rw [List.map_append, List.mem_append]
          rintro (hrest | hlast)
          · exact hlater hrest
          · exact hsame (List.mem_singleton.mp hlast)
        rw [if_neg hlater, if_neg hlater', List.filter_cons_of_pos (by simpa using hsame), List.cons_append]

/-! ## Contributors -/

theorem weightedScores_append (l : List WeightedSignal) (ws : WeightedSignal) :
    weightedScores (l ++ [ws]) = Json.set ws.signal.source ws.weightedScore (weightedScores l) := by
  simp [weightedScores]

theorem nodup_keys_weightedScores (l : List WeightedSignal) : (Json.keys (weightedScores l)).Nodup := by
  induction l using List.reverseRecOn with
  | nil => exact List.nodup_nil
  | append_singleton l ws ih =>
    rw [weightedScores_append]
    exact Json.nodup_keys_set ih

/-- The contributors are the survivors, by source. -/
theorem weightedScores_perm (l : List WeightedSignal) :
    (weightedScores l).Perm ((survivors l).map fun ws => (ws.signal.source, ws.weightedScore)) := by
  induction l using List.reverseRecOn with
  | nil => exact List.Perm.refl _
  | append_singleton l ws ih =>
    rw [weightedScores_append, survivors_append, List.map_append]
    refine (Json.set_perm (nodup_keys_weightedScores l)).trans (List.Perm.append_right _ ?_)
    have hfiltered := ih.filter fun e => decide (e.1 ≠ ws.signal.source)
    rw [List.filter_map] at hfiltered
    exact hfiltered

/-- Contributors with the same entries have the same values. -/
theorem get_of_perm {entries entries' : List (String × ℚ)} (h : (Json.keys entries).Nodup) (hperm : entries.Perm entries')
    (key : String) : Json.get key entries = Json.get key entries' := by
  have h' : (Json.keys entries').Nodup := (hperm.map Prod.fst).nodup_iff.mp h
  refine Option.ext fun value => ?_
  rw [Json.get_eq_some_iff h, Json.get_eq_some_iff h', hperm.mem_iff]

/-- Where the signals of a source weigh alike, each of them contributes its score. -/
theorem mem_weightedScores_iff (halike : ∀ a ∈ l, ∀ b ∈ l, a.signal.source = b.signal.source → a.weightedScore = b.weightedScore)
    (e : String × ℚ) : e ∈ weightedScores l ↔ ∃ ws ∈ l, (ws.signal.source, ws.weightedScore) = e := by
  rw [(weightedScores_perm l).mem_iff, List.mem_map]
  constructor
  · rintro ⟨ws, hws, rfl⟩
    exact ⟨ws, mem_of_mem_survivors hws, rfl⟩
  · rintro ⟨ws, hws, rfl⟩
    obtain ⟨a, ha, hsource⟩ := exists_survivor hws
    exact ⟨a, ha, by rw [hsource, halike a (mem_of_mem_survivors ha) ws hws hsource]⟩

/-- Then the order of the signals does not tell in the contributors. -/
theorem weightedScores_of_perm (halike : ∀ a ∈ l, ∀ b ∈ l, a.signal.source = b.signal.source → a.weightedScore = b.weightedScore)
    (hperm : l.Perm l') : (weightedScores l).Perm (weightedScores l') := by
  have halike' : ∀ a ∈ l', ∀ b ∈ l', a.signal.source = b.signal.source → a.weightedScore = b.weightedScore :=
    fun a ha b hb => halike a (hperm.mem_iff.mpr ha) b (hperm.mem_iff.mpr hb)
  have hnodup := List.Nodup.of_map _ (nodup_keys_weightedScores l)
  have hnodup' := List.Nodup.of_map _ (nodup_keys_weightedScores l')
  refine (List.perm_ext_iff_of_nodup hnodup hnodup').mpr fun e => ?_
  rw [mem_weightedScores_iff halike, mem_weightedScores_iff halike']
  simp only [hperm.mem_iff]

/-- The last signal contributes its score. -/
theorem get_weightedScores_last (l : List WeightedSignal) (ws : WeightedSignal) :
    Json.get ws.signal.source (weightedScores (l ++ [ws])) = some ws.weightedScore := by
  rw [weightedScores_append, Json.get_set_self]

theorem sum_weightedScores (l : List WeightedSignal) :
    ((weightedScores l).map Prod.snd).sum = ((survivors l).map WeightedSignal.weightedScore).sum := by
  rw [((weightedScores_perm l).map Prod.snd).sum_eq, List.map_map]
  rfl

/-! ## Weights -/

variable {selector : StrategyFamilySelector} {regime : RegimeWeight} {signals signals' : List TradeSignal} {side : Direction}

/-- What is known of a weighted signal. -/
structure Weighed (ws : WeightedSignal) : Prop where
  weight : 0 ≤ ws.finalWeight
  direction : ws.directionScore = if ws.signal.side = .long then 1 else -1

theorem weighed_weigh {service : WeightedEnsembleService} (h : ValidEnsemble service selector regime signals) {s : TradeSignal}
    (hs : s ∈ signals) : Weighed (selector.weigh regime s) := by
  refine ⟨?_, rfl⟩
  have hconfidence : 0 ≤ s.confidence.getD 0 := by
    cases hc : s.confidence with
    | none => exact le_refl _
    | some c => exact (h.confidences s hs c hc).1
  have hbase : ∀ family, 0 ≤ (selector.baseWeights family).getD (1 / 2) := by
    intro family
    cases hw : selector.baseWeights family with
    | none => norm_num
    | some w => exact h.baseWeights family w hw
  have hregime : ∀ family, 0 ≤ StrategyFamilySelector.getRegimeMultiplier family regime := by
    obtain ⟨h1, h2, h3, h4⟩ := h.regimeWeights
    intro family
    cases family with
    | trendPullback => exact h1
    | breakout => exact h2
    | rangeMeanReversion => exact h3
    | momentumContinuation => exact h4
    | unknown => norm_num [StrategyFamilySelector.getRegimeMultiplier]
  exact mul_nonneg (mul_nonneg (hbase _) (hregime _)) hconfidence

theorem sideWeight_nonneg (h : ∀ ws ∈ l, Weighed ws) (side : Direction) : 0 ≤ sideWeight l side := by
  refine List.sum_nonneg fun w hw => ?_
  obtain ⟨ws, hws, rfl⟩ := List.mem_map.mp hw
  exact (h ws (List.mem_filter.mp hws).1).weight

theorem sideWeight_cons (ws : WeightedSignal) (l : List WeightedSignal) (side : Direction) :
    sideWeight (ws :: l) side = (if ws.signal.side = side then ws.finalWeight else 0) + sideWeight l side := by
  unfold sideWeight
  by_cases hside : ws.signal.side = side
  · rw [if_pos hside, List.filter_cons_of_pos (by simpa using hside), List.map_cons, List.sum_cons]
  · rw [if_neg hside, List.filter_cons_of_neg (by simpa using hside), zero_add]

theorem sideWeight_add (l : List WeightedSignal) : sideWeight l .long + sideWeight l .short = totalWeight l := by
  induction l with
  | nil => simp [sideWeight, totalWeight]
  | cons ws l ih =>
    have htotal : totalWeight (ws :: l) = ws.finalWeight + totalWeight l := by simp [totalWeight]
    rw [sideWeight_cons, sideWeight_cons, htotal, ← ih]
    cases ws.signal.side with
    | long => simp; ring
    | short => simp; ring

/-- The signed weights are the long weight less the short weight. -/
theorem sideWeight_sub (h : ∀ ws ∈ l, Weighed ws) :
    sideWeight l .long - sideWeight l .short = (l.map WeightedSignal.weightedScore).sum := by
  induction l with
  | nil => simp [sideWeight]
  | cons ws l ih =>
    rw [sideWeight_cons, sideWeight_cons, List.map_cons, List.sum_cons, ← ih fun a ha => h a (List.mem_cons_of_mem ws ha)]
    have hdirection := (h ws List.mem_cons_self).direction
    unfold WeightedSignal.weightedScore
    rw [hdirection]
    cases ws.signal.side with
    | long => simp; ring
    | short => simp; ring

/-! ## Families -/

/-- The weights of the families of a side. -/
def familyWeights (l : List WeightedSignal) (side : Direction) : List (StrategyFamily × ℚ) :=
  (l.filter fun ws => decide (ws.signal.side = side)).foldl (fun weights ws => addFamilyWeight ws.family ws.finalWeight weights) []

/-- What the entries of a family weigh. -/
def weightIn (entries : List (StrategyFamily × ℚ)) (family : StrategyFamily) : ℚ :=
  ((entries.filter fun e => decide (e.1 = family)).map Prod.snd).sum

theorem weightIn_cons (e : StrategyFamily × ℚ) (entries : List (StrategyFamily × ℚ)) (family : StrategyFamily) :
    weightIn (e :: entries) family = (if e.1 = family then e.2 else 0) + weightIn entries family := by
  unfold weightIn
  by_cases hfamily : e.1 = family
  · rw [if_pos hfamily, List.filter_cons_of_pos (by simpa using hfamily), List.map_cons, List.sum_cons]
  · rw [if_neg hfamily, List.filter_cons_of_neg (by simpa using hfamily), zero_add]

theorem weightIn_addFamilyWeight (family f : StrategyFamily) (weight : ℚ) (entries : List (StrategyFamily × ℚ)) :
    weightIn (addFamilyWeight family weight entries) f = weightIn entries f + if family = f then weight else 0 := by
  induction entries with
  | nil =>
    rw [addFamilyWeight, weightIn_cons, add_comm]
  | cons e rest ih =>
    obtain ⟨g, w⟩ := e
    rw [addFamilyWeight]
    by_cases hfamily : g = family
    · subst hfamily
      rw [if_pos rfl, weightIn_cons, weightIn_cons]
      split_ifs <;> ring
    · rw [if_neg hfamily, weightIn_cons, weightIn_cons, ih]
      ring

theorem mem_keys_addFamilyWeight {family f : StrategyFamily} {weight : ℚ} {entries : List (StrategyFamily × ℚ)} :
    f ∈ (addFamilyWeight family weight entries).map Prod.fst ↔ f = family ∨ f ∈ entries.map Prod.fst := by
  induction entries with
  | nil => simp [addFamilyWeight]
  | cons e rest ih =>
    obtain ⟨g, w⟩ := e
    rw [addFamilyWeight]
    split_ifs with hfamily
    · simp [hfamily]
    · rw [List.map_cons, List.mem_cons, ih, List.map_cons, List.mem_cons]
      exact or_left_comm

theorem nodup_keys_addFamilyWeight {family : StrategyFamily} {weight : ℚ} {entries : List (StrategyFamily × ℚ)}
    (h : (entries.map Prod.fst).Nodup) : ((addFamilyWeight family weight entries).map Prod.fst).Nodup := by
  induction entries with
  | nil => exact List.nodup_singleton _
  | cons e rest ih =>
    obtain ⟨g, w⟩ := e
    obtain ⟨hg, hrest⟩ := List.nodup_cons.mp h
    rw [addFamilyWeight]
    split_ifs with hfamily
    · exact h
    · refine List.nodup_cons.mpr ⟨fun hmem => ?_, ih hrest⟩
      rcases mem_keys_addFamilyWeight.mp hmem with heq | hmem
      · exact hfamily heq
      · exact hg hmem

/-- The table of some signals: each family that has one, once, with the weight of its signals. -/
theorem table_spec (l : List WeightedSignal) :
    ((l.foldl (fun weights ws => addFamilyWeight ws.family ws.finalWeight weights) []).map Prod.fst).Nodup ∧
      ∀ f, (f ∈ (l.foldl (fun weights ws => addFamilyWeight ws.family ws.finalWeight weights) []).map Prod.fst ↔
          ∃ ws ∈ l, ws.family = f) ∧
        weightIn (l.foldl (fun weights ws => addFamilyWeight ws.family ws.finalWeight weights) []) f =
          ((l.filter fun ws => decide (ws.family = f)).map WeightedSignal.finalWeight).sum := by
  induction l using List.reverseRecOn with
  | nil => simp [weightIn]
  | append_singleton l ws ih =>
    obtain ⟨hnodup, hfamilies⟩ := ih
    rw [List.foldl_append, List.foldl_cons, List.foldl_nil]
    refine ⟨nodup_keys_addFamilyWeight hnodup, fun f => ⟨?_, ?_⟩⟩
    · rw [mem_keys_addFamilyWeight, (hfamilies f).1]
      constructor
      · rintro (rfl | ⟨a, ha, hfamily⟩)
        · exact ⟨ws, List.mem_append_right l (List.mem_singleton_self ws), rfl⟩
        · exact ⟨a, List.mem_append_left _ ha, hfamily⟩
      · rintro ⟨a, ha, hfamily⟩
        rcases List.mem_append.mp ha with ha | ha
        · exact Or.inr ⟨a, ha, hfamily⟩
        · rw [List.mem_singleton.mp ha] at hfamily
          exact Or.inl hfamily.symm
    · rw [weightIn_addFamilyWeight, (hfamilies f).2, List.filter_append, List.map_append, List.sum_append]
      by_cases hfamily : ws.family = f
      · simp [hfamily]
      · simp [hfamily]

/-- An entry of the table of a side is a family with a signal of the side, and its weight. -/
theorem mem_familyWeights {e : StrategyFamily × ℚ} : e ∈ familyWeights l side ↔
    (∃ ws ∈ l, ws.signal.side = side ∧ ws.family = e.1) ∧ e.2 = familyWeight l side e.1 := by
  obtain ⟨hnodup, hfamilies⟩ := table_spec (l.filter fun ws => decide (ws.signal.side = side))
  obtain ⟨hkeys, hweight⟩ := hfamilies e.1
  have hsum : weightIn (familyWeights l side) e.1 = familyWeight l side e.1 := by
    refine hweight.trans ?_
    unfold familyWeight
    rw [List.filter_filter]
    congr 2
    refine List.filter_congr fun ws _ => ?_
    rw [Bool.eq_iff_iff]
    simp [and_comm]
  have hsignals : e.1 ∈ (familyWeights l side).map Prod.fst ↔ ∃ ws ∈ l, ws.signal.side = side ∧ ws.family = e.1 := by
    refine hkeys.trans ?_
    simp [and_assoc]
  have hself : ∀ e' ∈ familyWeights l side, e'.2 = weightIn (familyWeights l side) e'.1 := by
    intro e' he'
    have hone : ((familyWeights l side).filter fun e => decide (e.1 = e'.1)) = [e'] := Table.filter_key hnodup he'
    unfold weightIn
    rw [hone]
    simp
  rw [← hsignals, ← hsum]
  constructor
  · intro he
    exact ⟨List.mem_map_of_mem he, hself e he⟩
  · rintro ⟨hkey, heq⟩
    obtain ⟨e', he', hfst⟩ := List.mem_map.mp hkey
    have hsnd : e'.2 = e.2 := by rw [hself e' he', hfst, heq]
    rwa [← Prod.ext hfst hsnd]

/-- The heaviest entry is an entry, and none is heavier. -/
theorem heaviest_spec {entries : List (StrategyFamily × ℚ)} {e : StrategyFamily × ℚ} (h : heaviest entries = some e) :
    e ∈ entries ∧ ∀ e' ∈ entries, e'.2 ≤ e.2 := by
  induction entries generalizing e with
  | nil => cases h
  | cons a rest ih =>
    rw [heaviest] at h
    cases hrest : heaviest rest with
    | none =>
      rw [hrest] at h
      cases h
      have hnil : rest = [] := by
        cases rest with
        | nil => rfl
        | cons b rest =>
          rw [heaviest] at hrest
          split at hrest
          · cases hrest
          · split at hrest <;> cases hrest
      subst hnil
      simp
    | some best =>
      rw [hrest] at h
      dsimp only at h
      obtain ⟨hbest, hmax⟩ := ih hrest
      split_ifs at h with hlt
      · cases h
        refine ⟨List.mem_cons_of_mem a hbest, fun e' he' => ?_⟩
        rcases List.mem_cons.mp he' with rfl | he'
        · exact hlt.le
        · exact hmax e' he'
      · cases h
        refine ⟨List.mem_cons_self, fun e' he' => ?_⟩
        rcases List.mem_cons.mp he' with rfl | he'
        · exact le_refl _
        · exact (hmax e' he').trans (not_lt.mp hlt)

theorem heaviest_eq_none {entries : List (StrategyFamily × ℚ)} : heaviest entries = none ↔ entries = [] := by
  cases entries with
  | nil => simp [heaviest]
  | cons a rest =>
    rw [heaviest]
    split
    · simp
    · split_ifs <;> simp

/-- Whatever the order of the signals, the selected families are equally heavy. -/
theorem selectDominantFamily_perm (hperm : l.Perm l') (side : Direction) :
    (selectDominantFamily l (some side)).map (familyWeight l side) = (selectDominantFamily l' (some side)).map (familyWeight l side) := by
  have hweight : ∀ family, familyWeight l side family = familyWeight l' side family :=
    fun family => ((hperm.filter _).map WeightedSignal.finalWeight).sum_eq
  have hmem : ∀ e, e ∈ familyWeights l side ↔ e ∈ familyWeights l' side := by
    intro e
    rw [mem_familyWeights, mem_familyWeights, hweight]
    simp only [hperm.mem_iff]
  change ((heaviest (familyWeights l side)).map Prod.fst).map _ = ((heaviest (familyWeights l' side)).map Prod.fst).map _
  cases hbest : heaviest (familyWeights l side) with
  | none =>
    have hnil : familyWeights l' side = [] := by
      refine List.eq_nil_iff_forall_not_mem.mpr fun e he => ?_
      have hin := (hmem e).mpr he
      rw [heaviest_eq_none.mp hbest] at hin
      nomatch hin
    rw [hnil]
    rfl
  | some best =>
    obtain ⟨hin, hmax⟩ := heaviest_spec hbest
    cases hbest' : heaviest (familyWeights l' side) with
    | none =>
      have hin' := (hmem best).mp hin
      rw [heaviest_eq_none.mp hbest'] at hin'
      nomatch hin'
    | some best' =>
      obtain ⟨hin', hmax'⟩ := heaviest_spec hbest'
      have heq : best.2 = best'.2 := le_antisymm (hmax' best ((hmem best).mp hin)) (hmax best' ((hmem best').mpr hin'))
      have hself := (mem_familyWeights.mp hin).2
      have hself' := (mem_familyWeights.mp ((hmem best').mpr hin')).2
      simp only [Option.map_some]
      rw [← hself, ← hself', heq]

/-! ## Results -/

variable {service : WeightedEnsembleService}

/-- The result of signals whose weight suffices. -/
theorem aggregate_of_enough (hminimum : 0 < service.minTotalWeight) (h : service.minTotalWeight ≤ totalWeight l) :
    service.aggregate l =
      let finalScore := ((weightedScores l).map Prod.snd).sum / totalWeight l
      { finalSide := service.sideOf finalScore, finalScore, confidence := service.confidenceOf finalScore (service.sideOf finalScore),
        selectedFamily := selectDominantFamily l (service.sideOf finalScore), contributors := weightedScores l,
        longWeight := sideWeight l .long, shortWeight := sideWeight l .short, totalWeight := totalWeight l } := by
  have hne : l ≠ [] := by
    rintro rfl
    exact absurd h (not_le.mpr hminimum)
  unfold WeightedEnsembleService.aggregate
  rw [if_neg hne]
  dsimp only
  rw [if_neg (not_lt.mpr h)]

theorem aggregate_totalWeight (service : WeightedEnsembleService) (l : List WeightedSignal) :
    (service.aggregate l).totalWeight = totalWeight l := by
  unfold WeightedEnsembleService.aggregate
  split_ifs with hnil
  · rw [hnil]
    rfl
  · dsimp only
    split_ifs <;> rfl

theorem sideOf_eq_long {x : ℚ} (h : service.sideOf x = some .long) : service.longThreshold ≤ x := by
  unfold WeightedEnsembleService.sideOf at h
  split_ifs at h with hlong
  · exact hlong
  · nomatch h

theorem sideOf_eq_short {x : ℚ} (h : service.sideOf x = some .short) : x ≤ service.shortThreshold := by
  unfold WeightedEnsembleService.sideOf at h
  split_ifs at h with hlong hshort
  · nomatch h
  · exact hshort

theorem confidence_mem (hlong : service.longThreshold < 1) (hshort : -1 < service.shortThreshold) (x : ℚ) :
    0 ≤ service.confidenceOf x (service.sideOf x) ∧ service.confidenceOf x (service.sideOf x) ≤ 1 := by
  cases hside : service.sideOf x with
  | none => exact ⟨le_refl _, zero_le_one⟩
  | some side =>
    cases side with
    | long =>
      have hx := sideOf_eq_long hside
      refine ⟨le_min (div_nonneg ?_ ?_) zero_le_one, min_le_right _ _⟩ <;> linarith
    | short =>
      have hx := sideOf_eq_short hside
      refine ⟨le_min (div_nonneg ?_ ?_) zero_le_one, min_le_right _ _⟩ <;> linarith

/-- With symmetric thresholds the opposite score has the opposite side, and the same confidence. -/
theorem sideOf_neg (hlong : 0 < service.longThreshold) (hsymmetric : service.shortThreshold = -service.longThreshold) (x : ℚ) :
    service.sideOf (-x) = (service.sideOf x).map Direction.opposite := by
  unfold WeightedEnsembleService.sideOf
  rw [hsymmetric]
  by_cases hup : service.longThreshold ≤ x
  · rw [if_pos hup, if_neg (by linarith), if_pos (by linarith)]
    rfl
  · by_cases hdown : x ≤ -service.longThreshold
    · rw [if_neg hup, if_pos hdown, if_pos (by linarith)]
      rfl
    · rw [if_neg hup, if_neg hdown, if_neg (by linarith), if_neg (by linarith)]
      rfl

theorem confidenceOf_neg (hsymmetric : service.shortThreshold = -service.longThreshold) (x : ℚ) (side : Option Direction) :
    service.confidenceOf (-x) (side.map Direction.opposite) = service.confidenceOf x side := by
  cases side with
  | none => rfl
  | some side =>
    cases side with
    | long =>
      change min ((service.shortThreshold - -x) / (service.shortThreshold - -1)) 1 =
        min ((x - service.longThreshold) / (1 - service.longThreshold)) 1
      rw [hsymmetric]
      ring_nf
    | short =>
      change min ((-x - service.longThreshold) / (1 - service.longThreshold)) 1 =
        min ((service.shortThreshold - x) / (service.shortThreshold - -1)) 1
      rw [hsymmetric]
      ring_nf

/-! ## Mirrors -/

/-- The weighted signal of the other side. -/
def flip (ws : WeightedSignal) : WeightedSignal := { ws with signal := ws.signal.flipped, directionScore := -ws.directionScore }

theorem weigh_flipped (s : TradeSignal) : selector.weigh regime s.flipped = flip (selector.weigh regime s) := by
  unfold flip StrategyFamilySelector.weigh TradeSignal.flipped
  cases s.side with
  | long => rfl
  | short =>
    simp only [Direction.opposite, reduceCtorEq, if_true, if_false, neg_neg]
    rfl

theorem classifyAndWeight_flipped (signals : List TradeSignal) :
    selector.classifyAndWeight (signals.map TradeSignal.flipped) regime = (selector.classifyAndWeight signals regime).map flip := by
  unfold StrategyFamilySelector.classifyAndWeight
  rw [List.map_map, List.map_map]
  exact List.map_congr_left fun s _ => weigh_flipped s

theorem opposite_eq_iff (side side' : Direction) : side.opposite = side' ↔ side = side'.opposite := by
  cases side <;> cases side' <;> decide

theorem filter_flip (l : List WeightedSignal) (side : Direction) :
    (l.map flip).filter (fun ws => decide (ws.signal.side = side)) =
      (l.filter fun ws => decide (ws.signal.side = side.opposite)).map flip := by
  rw [List.filter_map]
  congr 1
  exact List.filter_congr fun ws _ => decide_eq_decide.mpr (opposite_eq_iff ws.signal.side side)

theorem sideWeight_flip (l : List WeightedSignal) (side : Direction) : sideWeight (l.map flip) side = sideWeight l side.opposite := by
  unfold sideWeight
  rw [filter_flip, List.map_map]
  rfl

theorem totalWeight_flip (l : List WeightedSignal) : totalWeight (l.map flip) = totalWeight l := by
  unfold totalWeight
  rw [List.map_map]
  rfl

theorem selectDominantFamily_flip (l : List WeightedSignal) (side : Option Direction) :
    selectDominantFamily (l.map flip) (side.map Direction.opposite) = selectDominantFamily l side := by
  cases side with
  | none => rfl
  | some side =>
    have htwice : side.opposite.opposite = side := by cases side <;> rfl
    unfold selectDominantFamily
    dsimp only [Option.map_some]
    rw [filter_flip, htwice, List.foldl_map]
    rfl

theorem set_neg (key : String) (value : ℚ) (entries : List (String × ℚ)) :
    Json.set key (-value) (entries.map fun e => (e.1, -e.2)) = (Json.set key value entries).map fun e => (e.1, -e.2) := by
  induction entries with
  | nil => rfl
  | cons e rest ih =>
    obtain ⟨k, v⟩ := e
    rw [List.map_cons, Json.set, Json.set, ih]
    split_ifs <;> rfl

theorem weightedScores_flip (l : List WeightedSignal) :
    weightedScores (l.map flip) = (weightedScores l).map fun e => (e.1, -e.2) := by
  induction l using List.reverseRecOn with
  | nil => rfl
  | append_singleton l ws ih =>
    have hscore : (flip ws).weightedScore = -ws.weightedScore := neg_mul _ _
    rw [List.map_append, List.map_singleton, weightedScores_append, weightedScores_append, ih, hscore, ← set_neg]
    rfl

theorem sum_neg (entries : List (String × ℚ)) :
    ((entries.map fun e => (e.1, -e.2)).map Prod.snd).sum = -(entries.map Prod.snd).sum := by
  induction entries with
  | nil => simp
  | cons e rest ih =>
    simp only [List.map_cons, List.sum_cons, ih]
    ring

theorem mirrored (hminimum : 0 < service.minTotalWeight) (hlong : 0 < service.longThreshold)
    (hsymmetric : service.shortThreshold = -service.longThreshold) (h : service.minTotalWeight ≤ totalWeight l) :
    MirroredEnsemble (service.aggregate l) (service.aggregate (l.map flip)) := by
  have hscore : ((weightedScores (l.map flip)).map Prod.snd).sum / totalWeight (l.map flip) =
      -(((weightedScores l).map Prod.snd).sum / totalWeight l) := by
    rw [weightedScores_flip, sum_neg, totalWeight_flip, neg_div]
  rw [aggregate_of_enough hminimum h, aggregate_of_enough hminimum (h.trans_eq (totalWeight_flip l).symm)]
  dsimp only
  rw [hscore, sideOf_neg hlong hsymmetric]
  exact {
    side := rfl
    score := rfl
    confidence := confidenceOf_neg hsymmetric _ _
    family := selectDominantFamily_flip l _
    contributors := weightedScores_flip l
    long := sideWeight_flip l .long
    short := sideWeight_flip l .short
    total := totalWeight_flip l }

/-- Where the signals of a source weigh alike, the order of the signals does not tell. -/
theorem same_of_perm (hminimum : 0 < service.minTotalWeight)
    (halike : ∀ a ∈ l, ∀ b ∈ l, a.signal.source = b.signal.source → a.weightedScore = b.weightedScore) (hperm : l.Perm l')
    (h : service.minTotalWeight ≤ totalWeight l) : SameEnsemble l (service.aggregate l) (service.aggregate l') := by
  have htotal : totalWeight l = totalWeight l' := (hperm.map _).sum_eq
  have hscores := weightedScores_of_perm halike hperm
  have hscore : ((weightedScores l').map Prod.snd).sum / totalWeight l' = ((weightedScores l).map Prod.snd).sum / totalWeight l := by
    rw [(hscores.map Prod.snd).sum_eq, htotal]
  rw [aggregate_of_enough hminimum h, aggregate_of_enough hminimum (h.trans_eq htotal)]
  dsimp only
  rw [hscore]
  exact {
    side := rfl
    score := rfl
    confidence := rfl
    family := fun side hside => by
      dsimp only at hside ⊢
      rw [hside]
      exact selectDominantFamily_perm hperm side
    noFamily := fun hside => by
      dsimp only at hside ⊢
      rw [hside]
      exact ⟨rfl, rfl⟩
    contributors := get_of_perm (nodup_keys_weightedScores l) hscores
    long := ((hperm.filter _).map _).sum_eq
    short := ((hperm.filter _).map _).sum_eq
    total := htotal }

end WeightedMeanAux

open WeightedMeanAux

/-- The ensemble is the weighted mean exactly where what is replaced does not count, as far as the weight suffices. -/
theorem ensemble_weightedMean {service : WeightedEnsembleService} {selector : StrategyFamilySelector} {regime : RegimeWeight}
    {signals : List TradeSignal} (hvalid : ValidEnsemble service selector regime signals) :
    IsWeightedMean service selector regime signals ↔
      (service.minTotalWeight ≤ totalWeight (selector.classifyAndWeight signals regime) →
        RepeatsCancel (selector.classifyAndWeight signals regime)) := by
  have hweighed : ∀ ws ∈ selector.classifyAndWeight signals regime, Weighed ws := by
    intro ws hws
    obtain ⟨s, hs, rfl⟩ := List.mem_map.mp hws
    exact weighed_weigh hvalid hs
  have htotal : (ensembleOf service selector regime signals).totalWeight = totalWeight (selector.classifyAndWeight signals regime) :=
    aggregate_totalWeight _ _
  constructor
  · intro hmean henough
    have henough' := henough.trans_eq htotal.symm
    have hpos := hvalid.minimum.trans_le henough
    have heq : ensembleOf service selector regime signals = _ := aggregate_of_enough hvalid.minimum henough
    refine ⟨fun a ha b hb hsource => ?_, ?_⟩
    · obtain ⟨s, hs, rfl⟩ := List.mem_map.mp ha
      obtain ⟨t, ht, rfl⟩ := List.mem_map.mp hb
      -- a signal that is moved to the end contributes its own score
      have hlast : ∀ s ∈ signals, Json.get s.source (ensembleOf service selector regime signals).contributors =
          some (selector.weigh regime s).weightedScore := by
        intro s hs
        have hperm : signals.Perm (signals.erase s ++ [s]) :=
          (List.perm_cons_erase hs).trans (List.perm_append_singleton s _).symm
        have hsame := (hmean.perm henough' _ hperm).contributors s.source
        have htotal' : totalWeight (selector.classifyAndWeight (signals.erase s ++ [s]) regime) =
            totalWeight (selector.classifyAndWeight signals regime) := ((hperm.symm.map _).map _).sum_eq
        rw [hsame]
        unfold ensembleOf
        rw [aggregate_of_enough hvalid.minimum (henough.trans_eq htotal'.symm)]
        dsimp only
        unfold StrategyFamilySelector.classifyAndWeight
        rw [List.map_append]
        exact get_weightedScores_last _ (selector.weigh regime s)
      have hsource' : s.source = t.source := hsource
      have hs' := hlast s hs
      rw [hsource', hlast t ht] at hs'
      exact (Option.some.inj hs').symm
    · have hscore := hmean.mean henough'
      rw [heq] at hscore
      dsimp only at hscore
      rw [div_left_inj' hpos.ne', sum_weightedScores, sideWeight_sub hweighed] at hscore
      exact hscore
  · intro hcancel
    have hmean : ∀ henough : service.minTotalWeight ≤ totalWeight (selector.classifyAndWeight signals regime),
        ((weightedScores (selector.classifyAndWeight signals regime)).map Prod.snd).sum =
          sideWeight (selector.classifyAndWeight signals regime) .long - sideWeight (selector.classifyAndWeight signals regime) .short := by
      intro henough
      rw [sum_weightedScores, (hcancel henough).cancel, sideWeight_sub hweighed]
    have heq : ∀ henough : service.minTotalWeight ≤ totalWeight (selector.classifyAndWeight signals regime),
        ensembleOf service selector regime signals = _ := fun henough => aggregate_of_enough hvalid.minimum henough
    refine ⟨fun henough => ?_, fun henough => ?_, fun henough => ?_, fun henough signals' hperm => ?_, fun henough hsymmetric => ?_⟩
    all_goals rw [htotal] at henough
    · rw [heq henough]
      dsimp only
      rw [hmean henough]
    · have hlong := sideWeight_nonneg hweighed .long
      have hshort := sideWeight_nonneg hweighed .short
      have hsum := sideWeight_add (selector.classifyAndWeight signals regime)
      have hpos := hvalid.minimum.trans_le henough
      rw [heq henough]
      dsimp only
      rw [hmean henough, le_div_iff₀ hpos, div_le_iff₀ hpos]
      constructor <;> linarith
    · rw [heq henough]
      exact confidence_mem hvalid.long.2 hvalid.short.1 _
    · exact same_of_perm hvalid.minimum (hcancel henough).alike (hperm.map _) henough
    · unfold ensembleOf
      rw [classifyAndWeight_flipped]
      exact mirrored hvalid.minimum hvalid.long.1 hsymmetric henough

/-! ## On fixed signals -/

/-- A regime that weighs all families alike. -/
def evenRegime : RegimeWeight := { trendPullback := 1, breakout := 1, rangeMeanReversion := 1, momentumContinuation := 1 }

theorem evenRegime_valid {signals : List TradeSignal} (h : ∀ s ∈ signals, ∀ c, s.confidence = some c → 0 ≤ c ∧ c ≤ 1) :
    ValidEnsemble {} {} evenRegime signals where
  confidences := h
  baseWeights := by
    intro family weight hweight
    rw [← Option.some.inj hweight]
    split_ifs <;> norm_num
  regimeWeights := by
    refine ⟨?_, ?_, ?_, ?_⟩ <;> exact zero_le_one
  long := by norm_num
  short := by norm_num
  minimum := by norm_num

/-- Two sources, on either side. -/
def twoSources : List TradeSignal :=
  [{ side := .long, source := "technical_macd", confidence := some 1 }, { side := .short, source := "technical_rsi", confidence := some (1 / 2) }]

theorem ensemble_weightedMean_twoSources : IsWeightedMean {} {} evenRegime twoSources :=
  (ensemble_weightedMean (evenRegime_valid (by
    intro s hs c hc
    rcases List.mem_cons.mp hs with rfl | hs
    · rw [← Option.some.inj hc]
      norm_num
    · rw [List.mem_singleton.mp hs] at hc
      rw [← Option.some.inj hc]
      norm_num))).mpr fun _ => {
    alike := by decide +kernel
    cancel := by decide +kernel }

/-- One source twice. -/
def oneSourceTwice : List TradeSignal :=
  [{ side := .long, source := "technical_macd", confidence := some 1 }, { side := .long, source := "technical_macd", confidence := some 1 }]

/-- A source that speaks twice weighs twice, and scores once. -/
theorem ensemble_weightedMean_oneSourceTwice : ¬∀ (service : WeightedEnsembleService) (selector : StrategyFamilySelector)
    (regime : RegimeWeight) (signals : List TradeSignal), ValidEnsemble service selector regime signals →
    IsWeightedMean service selector regime signals := by
  intro h
  have hvalid : ValidEnsemble {} {} evenRegime oneSourceTwice := by
    refine evenRegime_valid fun s hs c hc => ?_
    have hsame : s = { side := .long, source := "technical_macd", confidence := some 1 } := by
      rcases List.mem_cons.mp hs with hs | hs
      · exact hs
      · exact List.mem_singleton.mp hs
    rw [hsame] at hc
    rw [← Option.some.inj hc]
    norm_num
  have hmean := (h {} {} evenRegime oneSourceTwice hvalid).mean (by decide +kernel)
  exact absurd hmean (by decide +kernel)

end TradingPlatform
