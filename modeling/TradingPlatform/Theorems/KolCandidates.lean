import TradingPlatform.Engine.KolThreads
import TradingPlatform.Theorems.ProtectionRounding

/-!
# Candidates reproduce their messages

The adapter turns prices into distances without a sign, and the candidate turns them back by its side. The validator has looked at
the side of the stop, and at nothing else of what the way back needs.
-/

namespace TradingPlatform

/-- The event gets as far as the construction of a candidate. -/
def KolTradeEvent.Proposed (event : KolTradeEvent) (now : KolTime) : Prop :=
  event.eventType = .openEntry ∧ event.takeProfits.length ≤ 1 ∧ (validateEvent event now).accepted = true

/-- The confidence is a share, the detection lies before the expiry on the same kind of clock, the stop is a price, and a target
is a price ahead of the entry. -/
structure KolTradeEvent.WellPlaced (event : KolTradeEvent) (now : KolTime) : Prop where
  confidence : 0 ≤ event.confidence ∧ event.confidence ≤ 1
  detected : ∀ t ∈ event.detectedAt, t.hasZone = now.hasZone ∧ t.instant < now.instant + kolCandidateLifetime
  stop : ∀ stopLoss ∈ event.stopLoss, 0 < stopLoss
  target : ∀ entry ∈ event.entry, ∀ side ∈ event.direction, ∀ target ∈ event.takeProfits,
    0 < target ∧ 0 < side.gain entry target

/-- No raise, and a candidate resolves at its own reference price to the stop and the target of the event, which is not on the
losing side. -/
def Reproduces (event : KolTradeEvent) (outcome : Except CandidateError (Option KolCandidate)) : Prop :=
  ∃ candidate?, outcome = .ok candidate? ∧ ∀ c ∈ candidate?,
    (∃ stopLoss, event.stopLoss = some stopLoss ∧
      c.resolveProtectionPrices c.signalReferencePrice = .ok (stopLoss, event.takeProfits.head?)) ∧
    ∀ target ∈ event.takeProfits, 0 < c.side.gain c.signalReferencePrice target

namespace KolCandidatesAux

open RoundingAux (away resolveProtectionPrices_eq_ok)

variable {str : ℚ → String} {event : KolTradeEvent} {now : KolTime} {cycleId symbol : String} {threadId : Option String}
  {side : Direction} {entry stopLoss : ℚ}

/-! ## What the validator has seen -/

/-- What an accepted opening event holds. -/
structure Validated (event : KolTradeEvent) (symbol : String) (side : Direction) (entry stopLoss : ℚ) : Prop where
  symbol_eq : event.symbol = some symbol
  direction_eq : event.direction = some side
  entry_eq : event.entry = some entry
  stopLoss_eq : event.stopLoss = some stopLoss
  entry_pos : 0 < entry
  stop_losing : side.gain entry stopLoss < 0

theorem validated_of_accepted (hopen : event.eventType = .openEntry) (h : (validateEvent event now).accepted = true) :
    ∃ symbol side entry stopLoss, Validated event symbol side entry stopLoss := by
  unfold validateEvent at h
  rw [if_neg (not_not.mpr hopen)] at h
  split at h
  · rename_i symbol side hsymbol hdirection
    split at h
    · nomatch h
    · rename_i stopLoss hstop
      split at h
      · nomatch h
      · rename_i entry hentry
        split_ifs at h with hpos _ hlong hshort
        refine ⟨symbol, side, entry, stopLoss, hsymbol, hdirection, hentry, hstop, not_le.mp hpos, ?_⟩
        cases side with
        | long => exact sub_neg.mpr (not_le.mp fun hle => hlong ⟨rfl, hle⟩)
        | short => exact sub_neg.mpr (not_le.mp fun hle => hshort ⟨rfl, hle⟩)
  · nomatch h

theorem toCandidate_proposed (h : event.Proposed now) (hvalid : Validated event symbol side entry stopLoss) :
    toCandidate str event cycleId now threadId =
      (event.constructCandidate str cycleId now threadId symbol side entry stopLoss).map some := by
  obtain ⟨hopen, hsingle, haccepted⟩ := h
  unfold toCandidate
  rw [if_neg (not_not.mpr hopen), if_neg (Nat.not_lt.mpr hsingle), haccepted, if_neg (by decide), hvalid.symbol_eq,
    hvalid.direction_eq, hvalid.entry_eq, hvalid.stopLoss_eq]

theorem toCandidate_unproposed (h : ¬event.Proposed now) : toCandidate str event cycleId now threadId = .ok none := by
  unfold toCandidate
  split_ifs with hopen hmany haccepted
  · rfl
  · rfl
  · rfl
  · exact absurd ⟨not_not.mp hopen, Nat.not_lt.mp hmany, Bool.not_eq_false _ ▸ haccepted⟩ h

/-! ## The way back -/

/-- A candidate with the entry and the distances of the event. -/
structure Measures (c : KolCandidate) (event : KolTradeEvent) (side : Direction) (entry stopLoss : ℚ) : Prop where
  side_eq : c.side = side
  reference_eq : c.signalReferencePrice = entry
  stopDistance_eq : c.stopDistance = |entry - stopLoss|
  takeProfitDistance_eq : c.takeProfitDistance = event.takeProfits.head?.map fun target => |target - entry|

/-- The construction succeeds exactly if a target has a distance, the confidence is a share and the detection precedes the
expiry. -/
theorem constructCandidate_cases (str : ℚ → String) (now : KolTime) (cycleId : String) (threadId : Option String)
    (hvalid : Validated event symbol side entry stopLoss) :
    ((∃ e, event.constructCandidate str cycleId now threadId symbol side entry stopLoss = .error e) ∧
      ¬((∀ target ∈ event.takeProfits.head?, target ≠ entry) ∧ (0 ≤ event.confidence ∧ event.confidence ≤ 1) ∧
        ∀ t ∈ event.detectedAt, t.hasZone = now.hasZone ∧ t.instant < now.instant + kolCandidateLifetime)) ∨
    ((∃ c, event.constructCandidate str cycleId now threadId symbol side entry stopLoss = .ok c ∧
        Measures c event side entry stopLoss) ∧
      (0 ≤ event.confidence ∧ event.confidence ≤ 1) ∧
      ∀ t ∈ event.detectedAt, t.hasZone = now.hasZone ∧ t.instant < now.instant + kolCandidateLifetime) := by
  have hstop : 0 < |entry - stopLoss| := by
    rw [side.abs_gain]
    exact abs_pos.mpr hvalid.stop_losing.ne
  unfold KolTradeEvent.constructCandidate
  dsimp only
  rw [dif_pos hvalid.entry_pos, dif_pos hstop]
  by_cases htarget : ∀ d ∈ event.takeProfits.head?.map (fun target => |target - entry|), 0 < d
  · rw [dif_pos htarget]
    by_cases hconfidence : 0 ≤ event.confidence ∧ event.confidence ≤ 1
    · rw [dif_pos hconfidence]
      by_cases hzone : (event.detectedAt.getD now).hasZone ≠ now.hasZone
      · rw [if_pos hzone]
        refine .inl ⟨⟨_, rfl⟩, fun h => hzone ?_⟩
        cases hdetected : event.detectedAt with
        | none => rfl
        | some t => exact (h.2.2 t hdetected).1
      · rw [if_neg hzone]
        by_cases hexpiry : (event.detectedAt.getD now).instant < now.instant + kolCandidateLifetime
        · rw [dif_pos hexpiry]
          refine .inr ⟨⟨_, rfl, rfl, rfl, rfl, rfl⟩, hconfidence, fun t ht => ?_⟩
          rw [Option.mem_def.mp ht, Option.getD_some] at hexpiry hzone
          exact ⟨not_not.mp hzone, hexpiry⟩
        · rw [dif_neg hexpiry]
          refine .inl ⟨⟨_, rfl⟩, fun h => hexpiry ?_⟩
          cases hdetected : event.detectedAt with
          | none => exact Nat.lt_add_of_pos_right (by decide)
          | some t => exact (h.2.2 t hdetected).2
    · rw [dif_neg hconfidence]
      exact .inl ⟨⟨_, rfl⟩, fun h => hconfidence h.2.1⟩
  · rw [dif_neg htarget]
    refine .inl ⟨⟨_, rfl⟩, fun h => htarget fun d hd => ?_⟩
    obtain ⟨target, ht, rfl⟩ := Option.map_eq_some_iff.mp hd
    exact abs_pos.mpr (sub_ne_zero.mpr (h.1 target ht))

/-- The price at the distance of another is that price on the winning side of the entry, and its mirror image on the other. -/
theorem away_abs_eq_iff (side : Direction) (entry price : ℚ) :
    entry + away side * |price - entry| = price ↔ 0 ≤ side.gain entry price := by
  cases side with
  | long =>
    simp only [away, Direction.gain]
    rw [← abs_eq_self]
    constructor <;> intro h <;> linarith
  | short =>
    simp only [away, Direction.gain]
    rw [abs_sub_comm, ← abs_eq_self]
    constructor <;> intro h <;> linarith

theorem away_abs_stop (h : side.gain entry stopLoss < 0) : entry - away side * |entry - stopLoss| = stopLoss := by
  rw [side.abs_gain, abs_of_neg h]
  cases side with
  | long =>
    simp only [away, Direction.gain]
    linarith
  | short =>
    simp only [away, Direction.gain]
    linarith

/-- What a candidate resolves to at its own reference price. -/
theorem resolve_eq_ok {c : KolCandidate} (hvalid : Validated event symbol side entry stopLoss)
    (hc : Measures c event side entry stopLoss) {prices : ℚ × Option ℚ} :
    c.resolveProtectionPrices c.signalReferencePrice = .ok prices ↔
      0 < stopLoss ∧ (∀ target ∈ event.takeProfits.head?, 0 < entry + away side * |target - entry|) ∧
        prices = (stopLoss, event.takeProfits.head?.map fun target => entry + away side * |target - entry|) := by
  rw [hc.reference_eq, resolveProtectionPrices_eq_ok hvalid.entry_pos, hc.side_eq, hc.stopDistance_eq,
    away_abs_stop hvalid.stop_losing, hc.takeProfitDistance_eq, Option.map_map]
  cases event.takeProfits.head? with
  | none => simp
  | some target => simp

/-- The way back leads to the stop and the target exactly if both are prices and the target does not lie behind the entry. -/
theorem resolve_same_iff {c : KolCandidate} (hvalid : Validated event symbol side entry stopLoss)
    (hc : Measures c event side entry stopLoss) :
    c.resolveProtectionPrices c.signalReferencePrice = .ok (stopLoss, event.takeProfits.head?) ↔
      0 < stopLoss ∧ ∀ target ∈ event.takeProfits.head?, 0 < target ∧ 0 ≤ side.gain entry target := by
  rw [resolve_eq_ok hvalid hc]
  cases event.takeProfits.head? with
  | none => simp
  | some target =>
    have hback := away_abs_eq_iff side entry target
    simp only [Option.mem_def, Option.some.injEq, forall_eq', Option.map_some, Prod.mk.injEq, true_and]
    constructor
    · rintro ⟨hstop, hprice, hsame⟩
      rw [← hsame] at hprice
      exact ⟨hstop, hprice, hback.mp hsame.symm⟩
    · rintro ⟨hstop, hprice, hgain⟩
      rw [hback.mpr hgain]
      exact ⟨hstop, hprice, rfl⟩

/-- With at most one target, the targets are the first. -/
theorem mem_takeProfits_iff (hsingle : event.takeProfits.length ≤ 1) (target : ℚ) :
    target ∈ event.takeProfits ↔ target ∈ event.takeProfits.head? := by
  match h : event.takeProfits, hsingle with
  | [], _ => simp
  | [t], _ => simp [eq_comm]
  | _ :: _ :: _, hlong => simp at hlong

end KolCandidatesAux

open KolCandidatesAux

/-- The adapter reproduces an event exactly if, should it come to a candidate, the event is well placed. -/
theorem toCandidate_reproduces_iff (str : ℚ → String) (event : KolTradeEvent) (cycleId : String) (now : KolTime)
    (threadId : Option String) :
    Reproduces event (toCandidate str event cycleId now threadId) ↔ (event.Proposed now → event.WellPlaced now) := by
  by_cases hproposed : event.Proposed now
  · obtain ⟨symbol, side, entry, stopLoss, hvalid⟩ := validated_of_accepted hproposed.1 hproposed.2.2
    have hmem := mem_takeProfits_iff hproposed.2.1
    rw [toCandidate_proposed hproposed hvalid, imp_iff_right hproposed]
    rcases constructCandidate_cases str now cycleId threadId hvalid with
      ⟨⟨e, herror⟩, hbad⟩ | ⟨⟨c, hok, hc⟩, hconfidence, hdetected⟩
    · rw [herror]
      refine iff_of_false (fun ⟨_, h, _⟩ => nomatch h) fun h => hbad ⟨fun target ht heq => ?_, h.confidence, h.detected⟩
      have hahead := (h.target entry hvalid.entry_eq side hvalid.direction_eq target ((hmem target).mpr ht)).2
      rw [heq, Direction.gain_self] at hahead
      exact lt_irrefl 0 hahead
    · rw [hok]
      constructor
      · rintro ⟨candidate?, hsome, h⟩
        obtain ⟨⟨stop, hstop, hresolved⟩, hwinning⟩ := h c (Except.ok.inj hsome ▸ rfl)
        obtain rfl : stopLoss = stop := Option.some.inj (hvalid.stopLoss_eq.symm.trans hstop)
        obtain ⟨hpos, htargets⟩ := (resolve_same_iff hvalid hc).mp hresolved
        refine ⟨hconfidence, hdetected, fun stop hstop => ?_, fun entry' hentry side' hside target ht => ?_⟩
        · rw [← Option.some.inj (hvalid.stopLoss_eq.symm.trans hstop)]
          exact hpos
        · rw [← Option.some.inj (hvalid.entry_eq.symm.trans hentry), ← Option.some.inj (hvalid.direction_eq.symm.trans hside)]
          have hahead := hwinning target ht
          rw [hc.side_eq, hc.reference_eq] at hahead
          exact ⟨(htargets target ((hmem target).mp ht)).1, hahead⟩
      · intro h
        have htargets := h.target entry hvalid.entry_eq side hvalid.direction_eq
        refine ⟨some c, rfl, fun c' hc' => ?_⟩
        obtain rfl : c = c' := Option.some.inj hc'
        refine ⟨⟨stopLoss, hvalid.stopLoss_eq, ?_⟩, fun target ht => ?_⟩
        · refine (resolve_same_iff hvalid hc).mpr ⟨h.stop stopLoss hvalid.stopLoss_eq, fun target ht => ?_⟩
          obtain ⟨hprice, hahead⟩ := htargets target ((hmem target).mpr ht)
          exact ⟨hprice, hahead.le⟩
        · rw [hc.side_eq, hc.reference_eq]
          exact (htargets target ht).2
  · rw [toCandidate_unproposed hproposed]
    exact iff_of_true ⟨none, rfl, nofun⟩ fun h => absurd h hproposed

/-! ## Targets behind and at the entry -/

namespace KolCandidatesAux

/-- A long entry at 100 with its stop at 90. -/
def longAt100 (target : ℚ) : KolTradeEvent where
  eventType := .openEntry
  sourceId := "source"
  chatId := "chat"
  messageId := 1
  revision := 0
  symbol := some "BTC/USDT"
  side := some "LONG"
  entrySemantics := .market
  entryPrice := some 100
  stopLoss := some 90
  takeProfits := [target]
  completeness := .complete

theorem longAt100_validated (target : ℚ) : Validated (longAt100 target) "BTC/USDT" .long 100 90 where
  symbol_eq := rfl
  direction_eq := if_pos rfl
  entry_eq := by
    have hprice : (longAt100 target).entryPrice = some 100 := rfl
    unfold KolTradeEvent.entry
    rw [hprice]
    exact if_neg (by norm_num)
  stopLoss_eq := rfl
  entry_pos := by norm_num
  stop_losing := by norm_num [Direction.gain]

theorem longAt100_proposed (target : ℚ) (now : KolTime) : (longAt100 target).Proposed now := by
  refine ⟨rfl, Nat.le_refl 1, ?_⟩
  have hvalid := longAt100_validated target
  have hdetected : ¬∃ t ∈ (longAt100 target).detectedAt, (now.instant : ℤ) - t.instant > ((900 : ℕ) : ℤ) * 1000000 :=
    fun ⟨_, ht, _⟩ => nomatch ht
  have hopen : (longAt100 target).eventType = .openEntry := rfl
  have hcomplete : (longAt100 target).completeness = .complete := rfl
  have hsemantics : (longAt100 target).entrySemantics = .market := rfl
  unfold validateEvent
  rw [if_neg (not_not.mpr hopen), hvalid.symbol_eq, hvalid.direction_eq,
    hvalid.stopLoss_eq, hvalid.entry_eq, hsemantics]
  dsimp only
  rw [if_neg (by norm_num), if_neg (by simp), if_neg (by norm_num), if_neg (by simp), if_neg hdetected, hcomplete]
  rfl

end KolCandidatesAux

open RoundingAux (away) in
/-- With its target at 95 it becomes a candidate with its target at 105, and a target at the entry is a raise. -/
theorem toCandidate_mirrors :
    (∃ c, toCandidate (fun _ => "") (longAt100 95) "cycle" ⟨0, true⟩ none = .ok (some c) ∧
        c.resolveProtectionPrices c.signalReferencePrice = .ok (90, some 105)) ∧
      (∃ e, toCandidate (fun _ => "") (longAt100 100) "cycle" ⟨0, true⟩ none = .error e) ∧
      ¬Reproduces (longAt100 95) (toCandidate (fun _ => "") (longAt100 95) "cycle" ⟨0, true⟩ none) ∧
      ¬Reproduces (longAt100 100) (toCandidate (fun _ => "") (longAt100 100) "cycle" ⟨0, true⟩ none) := by
  have hconfidence : ∀ target, 0 ≤ (longAt100 target).confidence ∧ (longAt100 target).confidence ≤ 1 := by
    intro target
    norm_num [longAt100]
  have hbehind : ∃ c, toCandidate (fun _ => "") (longAt100 95) "cycle" ⟨0, true⟩ none = .ok (some c) ∧
      Measures c (longAt100 95) .long 100 90 := by
    rw [toCandidate_proposed (longAt100_proposed 95 _) (longAt100_validated 95)]
    rcases constructCandidate_cases (fun _ => "") ⟨0, true⟩ "cycle" none
      (longAt100_validated 95) with ⟨-, hbad⟩ | ⟨⟨c, hok, hc⟩, -⟩
    · refine absurd ⟨fun target ht => ?_, hconfidence 95, fun _ ht => by cases ht⟩ hbad
      obtain rfl : 95 = target := Option.some.inj ht
      norm_num
    · rw [hok]
      exact ⟨c, rfl, hc⟩
  have hlevel : ∃ e, toCandidate (fun _ => "") (longAt100 100) "cycle" ⟨0, true⟩ none = .error e := by
    rw [toCandidate_proposed (longAt100_proposed 100 _) (longAt100_validated 100)]
    rcases constructCandidate_cases (fun _ => "") ⟨0, true⟩ "cycle" none
      (longAt100_validated 100) with ⟨⟨e, herror⟩, -⟩ | ⟨⟨c, -, hc⟩, -⟩
    · rw [herror]
      exact ⟨e, rfl⟩
    · -- a candidate has no target at a distance of zero
      have hpos := c.takeProfitDistance_pos _ (hc.takeProfitDistance_eq : _ = some |(100 : ℚ) - 100|)
      norm_num at hpos
  obtain ⟨c, hc, hmeasures⟩ := hbehind
  obtain ⟨e, he⟩ := hlevel
  refine ⟨⟨c, hc, ?_⟩, ⟨e, he⟩, ?_, ?_⟩
  · refine (resolve_eq_ok (longAt100_validated 95) hmeasures).mpr ⟨by norm_num, fun target ht => ?_, ?_⟩
    · obtain rfl : 95 = target := Option.some.inj ht
      norm_num [away]
    · have htarget : (longAt100 95).takeProfits.head? = some 95 := rfl
      rw [htarget]
      norm_num [away]
  · rintro ⟨candidate?, hsome, h⟩
    rw [hc] at hsome
    have hwinning := (h c (Except.ok.inj hsome ▸ rfl)).2 95 (List.mem_singleton_self 95)
    rw [hmeasures.side_eq, hmeasures.reference_eq] at hwinning
    norm_num [Direction.gain] at hwinning
  · rintro ⟨candidate?, hsome, -⟩
    rw [he] at hsome
    cases hsome

end TradingPlatform
