import TradingPlatform.Engine.CandidateSelector

/-!
# The selection of a proposal

Whatever the order of the proposals, the best of each side decide: their scores say whether there is a conflict, and else whose side
wins. The result of a selection demands a score that is not negative, and the score has no such bound.
-/

namespace TradingPlatform

variable {l : List RatedProposal}

/-! ## The statement -/

/-- A proposal with the highest score of a list. -/
def Highest (l : List RatedProposal) (p : RatedProposal) : Prop := p ∈ l ∧ ∀ q ∈ l, q.score ≤ p.score

/-- The best proposals of the two sides are closer than the margin. -/
def CloseSides (selector : CandidateSelectorV2) (l : List RatedProposal) : Prop :=
  ∃ long short, Highest (bySide l .long) long ∧ Highest (bySide l .short) short ∧
    |long.score - short.score| < selector.conflictMargin

/-- What is promised of one selection. -/
structure SoundSelection (selector : CandidateSelectorV2) (proposals : List RatedProposal) (now : ℤ) (result : SelectionResult) :
    Prop where
  partition : ∀ p ∈ proposals, Xor (p.proposalId ∈ result.supportingProposalIds) ((result.rejectedReasons p.proposalId).isSome)
  selected : ∀ p, result.selected = some p → Highest (proposals.filter (RatedProposal.active now)) p ∧
    selector.minimumSelectedScore ≤ p.score ∧
    ∀ q ∈ proposals.filter (RatedProposal.active now), q.side ≠ p.side → q.score ≤ p.score - selector.conflictMargin

/-- Two selections come to the same. -/
structure SameSelection (a b : SelectionResult) : Prop where
  status : a.status = b.status
  side : a.selected.map (fun p => p.side) = b.selected.map (fun p => p.side)
  score : a.selectedScore = b.selectedScore

/-- Two selections differ only in what they say of some proposals. -/
structure SameUpTo (ids : String → Prop) (a b : SelectionResult) : Prop where
  status : a.status = b.status
  selected : a.selected = b.selected
  supporting : a.supportingProposalIds = b.supportingProposalIds
  score : a.selectedScore = b.selectedScore
  rejected : ∀ id, ¬ids id → a.rejectedReasons id = b.rejectedReasons id

/-- The id is that of an expired proposal. -/
def ExpiredId (proposals : List RatedProposal) (now : ℤ) (id : String) : Prop :=
  ∃ p ∈ proposals, p.expiresAt ≤ now ∧ p.proposalId = id

/-- The selection returns, is sound, and depends neither on the order of the proposals nor on the expired ones. -/
def SelectsWell (selector : CandidateSelectorV2) (proposals : List RatedProposal) (now : ℤ) : Prop :=
  ∃ result, selector.select proposals now = .ok result ∧ SoundSelection selector proposals now result ∧
    (∀ proposals', proposals.Perm proposals' → ∃ result', selector.select proposals' now = .ok result' ∧ SameSelection result result') ∧
    ∀ proposals', proposals'.filter (RatedProposal.active now) = proposals.filter (RatedProposal.active now) →
      ∃ result', selector.select proposals' now = .ok result' ∧
        SameUpTo (fun id => ExpiredId proposals now id ∨ ExpiredId proposals' now id) result result'

/-- Nothing is active, or the best of the two sides are too close, or some active proposal has a score that is not negative. -/
def ScoredWell (selector : CandidateSelectorV2) (active : List RatedProposal) : Prop :=
  active = [] ∨ CloseSides selector active ∨ ∃ p ∈ active, 0 ≤ p.score

namespace CandidateSelectionAux

open RatedProposal

variable {selector : CandidateSelectorV2} {proposals proposals' active active' : List RatedProposal} {now : ℤ} {p q : RatedProposal}
  {side : Direction}

/-! ## Highest scores -/

theorem Highest.score_eq (hp : Highest l p) (hq : Highest l q) : p.score = q.score :=
  le_antisymm (hq.2 p hp.1) (hp.2 q hq.1)

theorem Highest.perm {l l' : List RatedProposal} (hl : l.Perm l') (hp : Highest l p) : Highest l' p :=
  ⟨hl.mem_iff.mp hp.1, fun q hq => hp.2 q (hl.mem_iff.mpr hq)⟩

/-- The first of a ranked list has the highest score. -/
theorem highest_of_ranked (h : (p :: l).Pairwise ranksBefore) : Highest (p :: l) p := by
  refine ⟨List.mem_cons_self, fun q hq => ?_⟩
  rcases List.mem_cons.mp hq with rfl | hq
  · exact le_refl _
  · exact (List.pairwise_cons.mp h).1 q hq

theorem mem_bySide : p ∈ bySide l side ↔ p ∈ l ∧ p.side = side := by
  simp [bySide]

theorem CloseSides.perm (hl : active.Perm active') (h : CloseSides selector active) : CloseSides selector active' := by
  obtain ⟨long, short, hlong, hshort, hclose⟩ := h
  exact ⟨long, short, Highest.perm (hl.filter _) hlong, Highest.perm (hl.filter _) hshort, hclose⟩

/-- The best proposals of a ranked list are the first ones of their sides. -/
theorem inConflict_iff {ranked : List RatedProposal} (hsorted : ranked.Pairwise ranksBefore) :
    selector.inConflict ranked = true ↔ CloseSides selector ranked := by
  have hfirst : ∀ side p l, bySide ranked side = p :: l → Highest (bySide ranked side) p := by
    intro side p l hside
    have hranked : (bySide ranked side).Pairwise ranksBefore := hsorted.sublist List.filter_sublist
    rw [hside] at hranked ⊢
    exact highest_of_ranked hranked
  unfold CandidateSelectorV2.inConflict
  split
  · rename_i long restLong short restShort hlong hshort
    have hbestLong := hfirst _ _ _ hlong
    have hbestShort := hfirst _ _ _ hshort
    rw [decide_eq_true_iff]
    constructor
    · intro hclose
      exact ⟨long, short, hbestLong, hbestShort, hclose⟩
    · rintro ⟨long', short', hlong', hshort', hclose⟩
      rw [Highest.score_eq hbestLong hlong', Highest.score_eq hbestShort hshort']
      exact hclose
  · rename_i hnone
    refine iff_of_false Bool.false_ne_true ?_
    rintro ⟨long, short, hlong, hshort, -⟩
    obtain ⟨long', restLong, hconsLong⟩ := List.exists_cons_of_ne_nil (List.ne_nil_of_mem hlong.1)
    obtain ⟨short', restShort, hconsShort⟩ := List.exists_cons_of_ne_nil (List.ne_nil_of_mem hshort.1)
    exact hnone _ _ _ _ hconsLong hconsShort

/-! ## Rejections -/

theorem reject_of_mem {rejected : String → Option String} {reason : String} {l : List RatedProposal} (h : p ∈ l) :
    reject rejected reason l p.proposalId = some reason := by
  induction l using List.reverseRecOn with
  | nil => nomatch h
  | append_singleton l q ih =>
    unfold reject at ih ⊢
    rw [List.foldl_append, List.foldl_cons, List.foldl_nil]
    by_cases hid : p.proposalId = q.proposalId
    · rw [hid, Function.update_self]
    · rw [Function.update_of_ne hid]
      refine ih ((List.mem_append.mp h).resolve_right fun hlast => hid ?_)
      rw [List.mem_singleton.mp hlast]

theorem reject_of_ne {rejected : String → Option String} {reason id : String}
    (h : ∀ p ∈ l, p.proposalId ≠ id) : reject rejected reason l id = rejected id := by
  induction l generalizing rejected with
  | nil => rfl
  | cons p l ih =>
    refine (ih fun q hq => h q (List.mem_cons_of_mem p hq)).trans ?_
    exact Function.update_of_ne (h p List.mem_cons_self).symm _ _

/-- A rejection takes no earlier one back. -/
theorem isSome_reject {rejected : String → Option String} {id : String} (h : (rejected id).isSome = true) (reason : String)
    (l : List RatedProposal) : (reject rejected reason l id).isSome = true := by
  induction l generalizing rejected with
  | nil => exact h
  | cons p l ih =>
    refine ih ?_
    dsimp only
    by_cases hid : id = p.proposalId
    · rw [hid, Function.update_self]
      rfl
    · rw [Function.update_of_ne hid]
      exact h

/-- What is said of an id depends only on what was said of it before. -/
theorem reject_congr {rejected rejected' : String → Option String} {id : String} (h : rejected id = rejected' id) (reason : String)
    (l : List RatedProposal) : reject rejected reason l id = reject rejected' reason l id := by
  induction l generalizing rejected rejected' with
  | nil => exact h
  | cons p l ih =>
    refine ih ?_
    dsimp only
    by_cases hid : id = p.proposalId
    · rw [hid, Function.update_self, Function.update_self]
    · rw [Function.update_of_ne hid, Function.update_of_ne hid, h]

/-! ## Results -/

/-- The reasons of the proposals that have expired. -/
def expiredReasons (proposals : List RatedProposal) (now : ℤ) : String → Option String :=
  reject (fun _ => none) "expired" (proposals.filter fun p => !p.active now)

theorem expiredReasons_of_not {id : String} (h : ¬ExpiredId proposals now id) : expiredReasons proposals now id = none := by
  refine reject_of_ne fun p hp hid => h ⟨p, (List.mem_filter.mp hp).1, ?_, hid⟩
  have hexpired := (List.mem_filter.mp hp).2
  simpa [RatedProposal.active] using hexpired

theorem select_eq (selector : CandidateSelectorV2) (proposals : List RatedProposal) (now : ℤ) :
    selector.select proposals now =
      (selector.unvalidated (expiredReasons proposals now) (proposals.filter (RatedProposal.active now))).validated := rfl

/-- A score is at most one, so that a result is refused exactly for a negative score. -/
theorem validated_eq_ok {result result' : SelectionResult} (h : ∀ s, result.selectedScore = some s → s ≤ 1) :
    result.validated = .ok result' ↔ (∀ s, result.selectedScore = some s → 0 ≤ s) ∧ result' = result := by
  unfold SelectionResult.validated
  split
  · rename_i hnone
    simp [hnone, eq_comm]
  · rename_i score hscore
    have hle := h score hscore
    split_ifs with hmem
    · simp [hscore, hmem.1, eq_comm]
    · have hnegative : ¬0 ≤ score := fun h0 => hmem ⟨h0, hle⟩
      simp [hscore, hnegative]

theorem score_le (p : RatedProposal) : p.score ≤ 1 := min_le_left _ _

/-- The cases of a selection. -/
inductive Outcome (selector : CandidateSelectorV2) (rejected : String → Option String) (active : List RatedProposal) :
    SelectionResult → Prop where
  | empty : active = [] → Outcome selector rejected active
      { status := .empty, selected := none, supportingProposalIds := [], rejectedReasons := rejected }
  | conflict : CloseSides selector active → Outcome selector rejected active
      { status := .conflict, selected := none, supportingProposalIds := [],
        rejectedReasons := reject rejected "opposing_direction_conflict" active }
  | noTrade (winner : RatedProposal) : ¬CloseSides selector active → Highest active winner →
      winner.score < selector.minimumSelectedScore → Outcome selector rejected active
      { status := .noTrade, selected := none, supportingProposalIds := [],
        rejectedReasons := reject rejected "selected_score_below_threshold" active, selectedScore := some winner.score }
  | selected (winner : RatedProposal) (ranked : List RatedProposal) : ¬CloseSides selector active → Highest active winner →
      selector.minimumSelectedScore ≤ winner.score → ranked.Perm active → Outcome selector rejected active
      { status := .selected, selected := some winner,
        supportingProposalIds := (bySide ranked winner.side).map fun p => p.proposalId,
        rejectedReasons := reject rejected "opposing_direction_lost" (ranked.filter fun p => decide (p.side ≠ winner.side)),
        selectedScore := some winner.score }

theorem outcome_unvalidated (selector : CandidateSelectorV2) (rejected : String → Option String) (active : List RatedProposal) :
    Outcome selector rejected active (selector.unvalidated rejected active) := by
  have hperm := List.perm_insertionSort ranksBefore active
  have hsorted := List.pairwise_insertionSort ranksBefore active
  unfold CandidateSelectorV2.unvalidated
  cases hranked : active.insertionSort ranksBefore with
  | nil =>
    rw [hranked] at hperm
    exact .empty (List.nil_perm.mp hperm)
  | cons winner rest =>
    rw [hranked] at hperm hsorted
    have hbest := Highest.perm hperm (highest_of_ranked hsorted)
    have hconflict : selector.inConflict (winner :: rest) = true ↔ CloseSides selector active :=
      (inConflict_iff hsorted).trans ⟨CloseSides.perm hperm, CloseSides.perm hperm.symm⟩
    dsimp only
    split
    · rename_i hclose
      exact .conflict (hconflict.mp hclose)
    · rename_i hfar
      have hfar' : ¬CloseSides selector active := fun hclose => hfar (hconflict.mpr hclose)
      split
      · rename_i hlow
        exact .noTrade winner hfar' hbest hlow
      · rename_i hhigh
        exact .selected winner (winner :: rest) hfar' hbest (not_lt.mp hhigh) hperm

/-! ## What holds of an outcome -/

variable {rejected rejected' : String → Option String} {result result' : SelectionResult}

theorem Outcome.score_le (h : Outcome selector rejected active result) : ∀ s, result.selectedScore = some s → s ≤ 1 := by
  intro s hs
  cases h with
  | empty => nomatch hs
  | conflict => nomatch hs
  | noTrade winner => exact Option.some.inj hs ▸ CandidateSelectionAux.score_le winner
  | selected winner => exact Option.some.inj hs ▸ CandidateSelectionAux.score_le winner

/-- The score of an outcome is not negative exactly where nothing, or a conflict, or a score that is not negative decides. -/
theorem Outcome.scoredWell_iff (h : Outcome selector rejected active result) :
    (∀ s, result.selectedScore = some s → 0 ≤ s) ↔ ScoredWell selector active := by
  have hwinner : ∀ winner : RatedProposal, ¬CloseSides selector active → Highest active winner →
      ((∀ s, some winner.score = some s → 0 ≤ s) ↔ ScoredWell selector active) := by
    intro winner hfar hbest
    constructor
    · intro hscore
      exact Or.inr (Or.inr ⟨winner, hbest.1, hscore _ rfl⟩)
    · rintro (hnil | hclose | ⟨p, hp, hscore⟩) s hs
      · rw [hnil] at hbest
        nomatch hbest.1
      · exact absurd hclose hfar
      · rw [← Option.some.inj hs]
        exact hscore.trans (hbest.2 p hp)
  cases h with
  | empty hnil => exact iff_of_true (fun s hs => nomatch hs) (Or.inl hnil)
  | conflict hclose => exact iff_of_true (fun s hs => nomatch hs) (Or.inr (Or.inl hclose))
  | noTrade winner hfar hbest => exact hwinner winner hfar hbest
  | selected winner ranked hfar hbest => exact hwinner winner hfar hbest

theorem exists_highest (h : l ≠ []) : ∃ p, Highest l p := by
  have hperm := List.perm_insertionSort ranksBefore l
  have hsorted := List.pairwise_insertionSort ranksBefore l
  cases hranked : l.insertionSort ranksBefore with
  | nil =>
    rw [hranked] at hperm
    exact absurd (List.nil_perm.mp hperm) h
  | cons p rest =>
    rw [hranked] at hperm hsorted
    exact ⟨p, Highest.perm hperm (highest_of_ranked hsorted)⟩

/-- Without a conflict the winner is ahead of the other side by the margin. -/
theorem margin_of_far (hfar : ¬CloseSides selector active) (hbest : Highest active p) (hq : q ∈ active) (hside : q.side ≠ p.side) :
    q.score ≤ p.score - selector.conflictMargin := by
  have hself : Highest (bySide active p.side) p :=
    ⟨mem_bySide.mpr ⟨hbest.1, rfl⟩, fun r hr => hbest.2 r (mem_bySide.mp hr).1⟩
  obtain ⟨r, hr⟩ := exists_highest (List.ne_nil_of_mem (mem_bySide.mpr ⟨hq, rfl⟩))
  have hqr := hr.2 q (mem_bySide.mpr ⟨hq, rfl⟩)
  have hrp := hbest.2 r (mem_bySide.mp hr.1).1
  have hapart : selector.conflictMargin ≤ p.score - r.score := by
    by_contra hclose
    refine hfar ?_
    have habs : |p.score - r.score| < selector.conflictMargin := by
      rw [abs_of_nonneg (by linarith)]
      linarith
    cases hp : p.side with
    | long =>
      have hq' : q.side = .short := by cases hq' : q.side <;> simp_all
      rw [hp] at hself
      rw [hq'] at hr
      exact ⟨p, r, hself, hr, habs⟩
    | short =>
      have hq' : q.side = .long := by cases hq' : q.side <;> simp_all
      rw [hp] at hself
      rw [hq'] at hr
      rw [abs_sub_comm] at habs
      exact ⟨r, p, hr, hself, habs⟩
  linarith

/-- What decides an outcome does not depend on the order of the proposals. -/
theorem Outcome.same (hmargin : 0 < selector.conflictMargin) (hperm : active.Perm active') (h : Outcome selector rejected active result)
    (h' : Outcome selector rejected' active' result') : SameSelection result result' := by
  have hclose : CloseSides selector active ↔ CloseSides selector active' := ⟨CloseSides.perm hperm, CloseSides.perm hperm.symm⟩
  have hnone : ∀ l p, l = [] → ¬Highest l p := by
    rintro l p rfl ⟨hmem, -⟩
    nomatch hmem
  have hnotClose : ∀ l, l = [] → ¬CloseSides selector l := by
    rintro l rfl ⟨p, q, hp, -⟩
    exact hnone _ _ rfl hp
  cases h with
  | empty hnil =>
    have hnil' : active' = [] := List.nil_perm.mp (hnil ▸ hperm)
    cases h' with
    | empty => exact ⟨rfl, rfl, rfl⟩
    | conflict hclose' => exact absurd hclose' (hnotClose _ hnil')
    | noTrade w' _ hw' => exact absurd hw' (hnone _ _ hnil')
    | selected w' _ _ hw' => exact absurd hw' (hnone _ _ hnil')
  | conflict hclosed =>
    cases h' with
    | empty hnil' => exact absurd (hclose.mp hclosed) (hnotClose _ hnil')
    | conflict => exact ⟨rfl, rfl, rfl⟩
    | noTrade w' hfar' => exact absurd (hclose.mp hclosed) hfar'
    | selected w' _ hfar' => exact absurd (hclose.mp hclosed) hfar'
  | noTrade w hfar hw hlow =>
    have hw_perm := Highest.perm hperm hw
    cases h' with
    | empty hnil' => exact absurd hw_perm (hnone _ _ hnil')
    | conflict hclose' => exact absurd (hclose.mpr hclose') hfar
    | noTrade w' _ hw' => exact ⟨rfl, rfl, congrArg some (Highest.score_eq hw_perm hw')⟩
    | selected w' _ _ hw' hhigh' =>
      rw [Highest.score_eq hw_perm hw'] at hlow
      exact absurd hlow (not_lt.mpr hhigh')
  | selected w ranked hfar hw hhigh =>
    have hw_perm := Highest.perm hperm hw
    cases h' with
    | empty hnil' => exact absurd hw_perm (hnone _ _ hnil')
    | conflict hclose' => exact absurd (hclose.mpr hclose') hfar
    | noTrade w' _ hw' hlow' =>
      rw [Highest.score_eq hw_perm hw'] at hhigh
      exact absurd hlow' (not_lt.mpr hhigh)
    | selected w' _ hfar' hw' =>
      have hscore := Highest.score_eq hw_perm hw'
      refine ⟨rfl, ?_, congrArg some hscore⟩
      -- of two winners on opposite sides one would be behind the other by the margin
      by_contra hside
      have hbehind := margin_of_far hfar' hw_perm hw'.1 fun heq => hside (congrArg some heq.symm)
      linarith

/-- The reasons of the expired proposals change nothing else. -/
theorem unvalidated_sameUpTo {ids : String → Prop} (h : ∀ id, ¬ids id → rejected id = rejected' id) (active : List RatedProposal) :
    SameUpTo ids (selector.unvalidated rejected active) (selector.unvalidated rejected' active) := by
  unfold CandidateSelectorV2.unvalidated
  cases active.insertionSort ranksBefore with
  | nil => exact ⟨rfl, rfl, rfl, rfl, h⟩
  | cons winner rest =>
    dsimp only
    split
    · exact ⟨rfl, rfl, rfl, rfl, fun id hid => reject_congr (h id hid) _ _⟩
    · split <;> exact ⟨rfl, rfl, rfl, rfl, fun id hid => reject_congr (h id hid) _ _⟩

/-! ## Every proposal is supported or rejected -/

theorem expired_isSome (hp : p ∈ proposals) (hexpired : ¬p.active now = true) : (expiredReasons proposals now p.proposalId).isSome = true := by
  have hmem : p ∈ proposals.filter fun p => !p.active now := List.mem_filter.mpr ⟨hp, by simpa using hexpired⟩
  unfold expiredReasons
  rw [reject_of_mem hmem]
  rfl

/-- Where all active proposals are rejected, every proposal is. -/
theorem rejected_all (reason : String) (hp : p ∈ proposals) :
    (reject (expiredReasons proposals now) reason (proposals.filter (RatedProposal.active now)) p.proposalId).isSome = true := by
  by_cases hactive : p.active now = true
  · rw [reject_of_mem (List.mem_filter.mpr ⟨hp, hactive⟩)]
    rfl
  · exact isSome_reject (expired_isSome hp hactive) _ _

theorem partition_selected (hids : (proposals.map fun p => p.proposalId).Nodup) {winner : RatedProposal} {ranked : List RatedProposal}
    (hranked : ranked.Perm (proposals.filter (RatedProposal.active now))) (hp : p ∈ proposals) :
    Xor (p.proposalId ∈ (bySide ranked winner.side).map fun p => p.proposalId)
      ((reject (expiredReasons proposals now) "opposing_direction_lost" (ranked.filter fun p => decide (p.side ≠ winner.side))
        p.proposalId).isSome = true) := by
  have hunique : ∀ q ∈ proposals, q.proposalId = p.proposalId → q = p := fun q hq heq => List.inj_on_of_nodup_map hids hq hp heq
  have hmem : ∀ q, q ∈ ranked ↔ q ∈ proposals ∧ q.active now = true := fun q => hranked.mem_iff.trans List.mem_filter
  by_cases hwins : p.active now = true ∧ p.side = winner.side
  · refine Or.inl ⟨List.mem_map.mpr ⟨p, mem_bySide.mpr ⟨(hmem p).mpr ⟨hp, hwins.1⟩, hwins.2⟩, rfl⟩, ?_⟩
    have hlost : ∀ q ∈ ranked.filter fun p => decide (p.side ≠ winner.side), q.proposalId ≠ p.proposalId := by
      intro q hq heq
      obtain ⟨hq, hside⟩ := List.mem_filter.mp hq
      rw [hunique q ((hmem q).mp hq).1 heq] at hside
      exact of_decide_eq_true hside hwins.2
    have hexpired : ¬ExpiredId proposals now p.proposalId := by
      rintro ⟨q, hq, hexpires, heq⟩
      rw [hunique q hq heq] at hexpires
      exact absurd (of_decide_eq_true hwins.1) (not_lt.mpr hexpires)
    rw [reject_of_ne hlost, expiredReasons_of_not hexpired]
    exact Bool.false_ne_true
  · refine Or.inr ⟨?_, ?_⟩
    · by_cases hactive : p.active now = true
      · have hlost : p ∈ ranked.filter fun p => decide (p.side ≠ winner.side) :=
          List.mem_filter.mpr ⟨(hmem p).mpr ⟨hp, hactive⟩, decide_eq_true fun hside => hwins ⟨hactive, hside⟩⟩
        rw [reject_of_mem hlost]
        rfl
      · exact isSome_reject (expired_isSome hp hactive) _ _
    · intro hsupports
      obtain ⟨q, hq, heq⟩ := List.mem_map.mp hsupports
      obtain ⟨hq, hside⟩ := mem_bySide.mp hq
      obtain ⟨hq, hactive⟩ := (hmem q).mp hq
      obtain rfl := hunique q hq heq
      exact hwins ⟨hactive, hside⟩

theorem Outcome.sound (hids : (proposals.map fun p => p.proposalId).Nodup)
    (h : Outcome selector (expiredReasons proposals now) (proposals.filter (RatedProposal.active now)) result) :
    SoundSelection selector proposals now result := by
  cases h with
  | empty hnil =>
    refine ⟨fun p hp => Or.inr ⟨expired_isSome hp fun hactive => ?_, List.not_mem_nil⟩, fun p hp => nomatch hp⟩
    have hmem := List.mem_filter.mpr ⟨hp, hactive⟩
    rw [hnil] at hmem
    nomatch hmem
  | conflict => exact ⟨fun p hp => Or.inr ⟨rejected_all _ hp, List.not_mem_nil⟩, fun p hp => nomatch hp⟩
  | noTrade => exact ⟨fun p hp => Or.inr ⟨rejected_all _ hp, List.not_mem_nil⟩, fun p hp => nomatch hp⟩
  | selected winner ranked hfar hbest hhigh hranked =>
    refine ⟨fun p hp => partition_selected hids hranked hp, fun p hp => ?_⟩
    cases hp
    exact ⟨hbest, hhigh, fun q hq hside => margin_of_far hfar hbest hq hside⟩

end CandidateSelectionAux

open CandidateSelectionAux

/-- A selection does what it promises exactly if nothing, a conflict or a score that is not negative decides it. -/
theorem select_sound (selector : CandidateSelectorV2) (hmargin : 0 < selector.conflictMargin) (proposals : List RatedProposal)
    (hids : (proposals.map fun p => p.proposalId).Nodup) (now : ℤ) :
    SelectsWell selector proposals now ↔ ScoredWell selector (proposals.filter (RatedProposal.active now)) := by
  have houtcome := outcome_unvalidated selector (expiredReasons proposals now) (proposals.filter (RatedProposal.active now))
  constructor
  · rintro ⟨result, hselect, -⟩
    rw [select_eq, validated_eq_ok houtcome.score_le] at hselect
    exact houtcome.scoredWell_iff.mp hselect.1
  · intro hscored
    have hscore := houtcome.scoredWell_iff.mpr hscored
    refine ⟨_, ?_, houtcome.sound hids, fun proposals' hperm => ?_, fun proposals' hactive => ?_⟩
    · rw [select_eq, validated_eq_ok houtcome.score_le]
      exact ⟨hscore, rfl⟩
    · have houtcome' := outcome_unvalidated selector (expiredReasons proposals' now) (proposals'.filter (RatedProposal.active now))
      have hsame := houtcome.same hmargin (hperm.filter _) houtcome'
      refine ⟨_, ?_, hsame⟩
      rw [select_eq, validated_eq_ok houtcome'.score_le, ← hsame.score]
      exact ⟨hscore, rfl⟩
    · have hreasons : ∀ id, ¬(ExpiredId proposals now id ∨ ExpiredId proposals' now id) →
          expiredReasons proposals now id = expiredReasons proposals' now id := by
        intro id hid
        rw [expiredReasons_of_not fun h => hid (Or.inl h), expiredReasons_of_not fun h => hid (Or.inr h)]
      have hsame : SameUpTo _ (selector.unvalidated _ _) _ :=
        unvalidated_sameUpTo hreasons (proposals.filter (RatedProposal.active now))
      have houtcome' := outcome_unvalidated selector (expiredReasons proposals' now) (proposals'.filter (RatedProposal.active now))
      rw [hactive] at houtcome'
      refine ⟨_, ?_, hsame⟩
      rw [select_eq, hactive, validated_eq_ok houtcome'.score_le, ← hsame.score]
      exact ⟨hscore, rfl⟩

namespace CandidateSelectionAux

/-- A long proposal until an instant, with one component of its confidence. -/
def ratedLong (proposalId : String) (expiresAt : ℤ) (hexpires : 0 < expiresAt) (confidence : ℚ) : RatedProposal :=
  { proposalId, strategyId := "trend_pullback_v2", symbol := "BTC/USDT", side := .long, signalBarTime := 0, expiresAt, referencePrice := 100,
    maxPriceDriftBps := 10, stopPrice := 95, targets := [{ label := "tp1", price := 110, quantityFraction := 1 }], regimeFit := 4 / 5,
    setupQuality := 4 / 5, costAdjustedRr := 2, confidenceComponents := [("trend", confidence)], reference_pos := by decide,
    drift_nonneg := by decide, stop_pos := by decide, target_bounds := by decide +kernel, expires := hexpires,
    allocated := by decide +kernel, stop_behind := by decide +kernel, targets_ahead := by decide +kernel,
    regimeFit_mem := by decide +kernel, setupQuality_mem := by decide +kernel, costAdjustedRr_pos := by decide +kernel }

end CandidateSelectionAux

theorem select_sound_long :
    SelectsWell {} [ratedLong "p1" 900 (by decide) (3 / 5), ratedLong "p2" 900 (by decide) (2 / 5), ratedLong "p3" 300 (by decide) 1] 600 := by
  refine (select_sound {} (by decide +kernel) _ (by decide) 600).mpr (Or.inr (Or.inr ?_))
  decide +kernel

/-- A proposal with a component of the confidence far below zero has a negative score, and the selection raises. -/
theorem select_sound_negative : ¬SelectsWell {} [ratedLong "p1" 900 (by decide) (-5)] 600 := by
  rintro ⟨result, hselect, -⟩
  have hraises : ((({} : CandidateSelectorV2).select [ratedLong "p1" 900 (by decide) (-5)] 600).toOption.isNone) = true := by
    decide +kernel
  rw [hselect] at hraises
  nomatch hraises

end TradingPlatform
