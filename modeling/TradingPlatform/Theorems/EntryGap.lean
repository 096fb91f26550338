import TradingPlatform.Lemmas.EntryGap
import TradingPlatform.Theorems.OwnProtection

/-!
# The recovery of entry gaps is a fixpoint

Passes of `_recover_confirmed_v2_entry_gap` over the same decisions, against the same snapshot and the same fills. A fill that
joins an open position leaves no row of its intent, so the next pass takes it for a gap again: while the exchange holds more
than the position, it is added once more. Passes that merge no fill change nothing after the first one.
-/

namespace TradingPlatform

/-! ## Passes -/

/-- One pass over the decisions. -/
def gapPass (r : GapRequest) (es : List GapEvidence) (w : World) : World := (recoverConfirmedEntryGaps r es false w).2

/-- The intents a pass projects. -/
def projectedIntents (r : GapRequest) : List GapEvidence → World → List String
  | [], _ => []
  | e :: rest, w =>
    match recoverEntryGap w r e with
    | (.ok .recovered, w') => (if e.projects r w then [e.intentId] else []) ++ projectedIntents r rest w'
    | (.ok .skipped, w') => projectedIntents r rest w'
    | _ => []

/-- Quantity, entry price and entry fee of the managed positions. -/
def Database.managed (db : Database) : List (String × ℚ × ℚ × ℚ) :=
  db.positions.map fun p => (p.positionId, p.quantity, p.entryPrice, p.entryFee)

/-- The local state reports a confirmed fill of the intent that has no position. -/
def Database.ReportsGap (db : Database) (mode : V2ExecutionMode) (intentId : String) : Prop :=
  ∃ v ∈ (loadLocalState db mode).1.intents, v.intentId = intentId ∧ v.hasConfirmedEntryFill = true

/-- Further passes change no managed position, and no intent the first one projected is reported. -/
def GapFixpoint (r : GapRequest) (es : List GapEvidence) (w : World) : Prop :=
  (∀ n, ((gapPass r es)^[n + 1] w).db.managed = (gapPass r es w).db.managed) ∧
    ∀ id ∈ projectedIntents r es w, ¬(gapPass r es w).db.ReportsGap r.executionMode id

/-- The decision cannot be made: it raises or is blocked, and the pass ends. -/
def GapEvidence.Stops (e : GapEvidence) (r : GapRequest) (w : World) : Prop :=
  match decideGap w r e with
  | .error _ | .ok .blocked => True
  | _ => False

/-- Every decision of the pass settles its gap, up to one that cannot be made. -/
def GapsSettle (r : GapRequest) : List GapEvidence → World → Prop
  | [], _ => True
  | e :: rest, w => e.Stops r w ∨ (e.Settles r w ∧ GapsSettle r rest (recoverEntryGap w r e).2)

/-- Every gap is closed, up to a decision that cannot be made. -/
def GapsClosed (r : GapRequest) : List GapEvidence → World → Prop
  | [], _ => True
  | e :: rest, w => e.Stops r w ∨ (e.Closed r w ∧ GapsClosed r rest w)

section

variable {r : GapRequest} {es rest : List GapEvidence} {e : GapEvidence} {w w' : World}

/-- Whether a gap was recovered before does not matter to the pass. -/
theorem recoverConfirmedEntryGaps_world (r : GapRequest) (es : List GapEvidence) (b : Bool) (w : World) :
    (recoverConfirmedEntryGaps r es b w).2 = gapPass r es w := by
  unfold gapPass
  induction es generalizing b w with
  | nil => rfl
  | cons e rest ih =>
    unfold recoverConfirmedEntryGaps
    split
    · rfl
    · exact (ih b _).trans (ih false _).symm
    · rfl
    · rfl

/-- A pass goes on after a gap that was skipped or recovered, and ends after any other. -/
theorem gapPass_cons (r : GapRequest) (e : GapEvidence) (rest : List GapEvidence) (w : World) :
    gapPass r (e :: rest) w =
      match (recoverEntryGap w r e).1 with
      | .ok .skipped | .ok .recovered => gapPass r rest (recoverEntryGap w r e).2
      | _ => (recoverEntryGap w r e).2 := by
  rw [← recoverConfirmedEntryGaps_world r (e :: rest) false w, recoverConfirmedEntryGaps]
  obtain ⟨out, w₁⟩ := recoverEntryGap w r e
  match out with
  | .error err => rfl
  | .ok .skipped => rfl
  | .ok .recovered => exact recoverConfirmedEntryGaps_world r rest true w₁
  | .ok .blocked => rfl

/-- A decision that cannot be made leaves the world. -/
theorem recoverEntryGap_stop (h : e.Stops r w) :
    (∃ err, recoverEntryGap w r e = (.error err, w)) ∨ recoverEntryGap w r e = (.ok .blocked, w) := by
  unfold GapEvidence.Stops at h
  unfold recoverEntryGap
  split at h
  · rename_i err hdecide
    rw [hdecide]
    exact .inl ⟨err, rfl⟩
  · rename_i hdecide
    rw [hdecide]
    exact .inr rfl
  · exact h.elim

/-- A pass ends at an entry that stops it. -/
theorem gapPass_stop (h : e.Stops r w) : gapPass r (e :: rest) w = w := by
  rw [gapPass_cons]
  rcases recoverEntryGap_stop h with ⟨err, heq⟩ | heq
  · rw [heq]
  · rw [heq]

/-- A pass goes on after an entry that was skipped or recovered. -/
theorem gapPass_go (h : (recoverEntryGap w r e).1 = .ok .skipped ∨ (recoverEntryGap w r e).1 = .ok .recovered) :
    gapPass r (e :: rest) w = gapPass r rest (recoverEntryGap w r e).2 := by
  rw [gapPass_cons]
  rcases h with heq | heq
  · rw [heq]
  · rw [heq]

theorem GapEvidence.Stops.congr (h : e.Stops r w) (hground : w.SameGround w') : e.Stops r w' := by
  unfold GapEvidence.Stops
  rw [decideGap_congr hground]
  exact h

/-- Whether gaps are closed is a matter of the ground only. -/
theorem GapsClosed.congr (h : GapsClosed r es w) (hground : w.SameGround w') : GapsClosed r es w' := by
  induction es with
  | nil => trivial
  | cons e rest ih =>
    rcases h with hstop | ⟨hclosed, hrest⟩
    · exact .inl (hstop.congr hground)
    · exact .inr ⟨hclosed.congr hground, ih hrest⟩

/-- A pass over closed gaps changes no position. -/
theorem gapPass_ground (h : GapsClosed r es w) : w.SameGround (gapPass r es w) := by
  induction es generalizing w with
  | nil => exact World.SameGround.refl w
  | cons e rest ih =>
    rcases h with hstop | ⟨hclosed, hrest⟩
    · rw [gapPass_stop hstop]
      exact World.SameGround.refl w
    · have hstep := recoverEntryGap_closed hclosed
      rw [gapPass_cons]
      split
      · exact hstep.trans (ih (hrest.congr hstep))
      · exact hstep.trans (ih (hrest.congr hstep))
      · exact hstep

/-- What the first pass leaves: the positions grew, and its gaps are closed. -/
theorem gapPass_settles (h : GapsSettle r es w) (hk : (w.db.positions.map PositionRow.positionId).Nodup) :
    w.Grows r (gapPass r es w) ∧ GapsClosed r es (gapPass r es w) ∧
      ∀ id ∈ projectedIntents r es w, ∃ p ∈ (gapPass r es w).db.positions, p.intentId = id ∧
        p.executionMode = r.executionMode := by
  induction es generalizing w with
  | nil => exact ⟨(World.SameGround.refl w).grows hk, trivial, nofun⟩
  | cons e rest ih =>
    rcases h with hstop | ⟨hsettles, hrest⟩
    · rw [gapPass_stop hstop]
      refine ⟨(World.SameGround.refl w).grows hk, .inl hstop, fun id hid => ?_⟩
      have hnone : projectedIntents r (e :: rest) w = [] := by
        unfold projectedIntents
        rcases recoverEntryGap_stop hstop with ⟨err, heq⟩ | heq
        · rw [heq]
        · rw [heq]
      rw [hnone] at hid
      nomatch hid
    · have hsettled := hsettles.settled hk
      obtain ⟨hgrows, hclosed, hprojected⟩ := ih hrest hsettled.grows.keyed
      rw [gapPass_go hsettled.goesOn]
      refine ⟨hsettled.grows.trans hgrows, .inr ⟨hsettled.closed.grows hgrows, hclosed⟩, fun id hid => ?_⟩
      unfold projectedIntents at hid
      split at hid
      · rename_i heq
        rw [heq] at hprojected ⊢
        rcases List.mem_append.mp hid with hid | hid
        · split at hid
          · rename_i hprojects
            obtain rfl := List.mem_singleton.mp hid
            obtain ⟨p, hp, hintent, hmode⟩ := hsettled.projected hprojects
            rw [heq] at hp hgrows
            obtain ⟨p', hp', hstays⟩ := hgrows.positions.successor hp
            exact ⟨p', hp', hstays.intent.trans hintent, hstays.mode.trans hmode⟩
          · nomatch hid
        · exact hprojected id hid
      · rename_i heq
        rw [heq] at hprojected ⊢
        exact hprojected id hid
      · nomatch hid

/-- An intent with a position of the mode is not reported. -/
theorem not_reportsGap {db : Database} {mode : V2ExecutionMode} {p : PositionRow} (hp : p ∈ db.positions)
    (hmode : p.executionMode = mode) : ¬db.ReportsGap mode p.intentId := by
  rintro ⟨v, hv, hid, hfill⟩
  obtain ⟨row, -, rfl⟩ := List.mem_map.mp hv
  have hrow : row.intentId = p.intentId := hid
  have hgap : db.hasUnprojectedFill mode row.intentId = true := hfill
  have hsome : db.positionStateOfIntent mode row.intentId ≠ none := by
    unfold Database.positionStateOfIntent
    intro hnone
    rw [Option.map_eq_none_iff, List.getLast?_eq_none_iff, List.filter_eq_nil_iff] at hnone
    exact hnone p hp (decide_eq_true ⟨hmode, hrow.symm⟩)
  unfold Database.hasUnprojectedFill at hgap
  simp only [Bool.and_eq_true, Option.isNone_iff_eq_none] at hgap
  exact hsome hgap.1.2

/-- Passes are a fixpoint from the first one on if none of its fills joins an open position and each of them goes through. -/
theorem gapFixpoint_of_settle (r : GapRequest) (es : List GapEvidence) (w : World)
    (hk : (w.db.positions.map PositionRow.positionId).Nodup) (h : GapsSettle r es w) : GapFixpoint r es w := by
  obtain ⟨-, hclosed, hprojected⟩ := gapPass_settles h hk
  have hpasses : ∀ n, (gapPass r es w).SameGround ((gapPass r es)^[n + 1] w) := by
    intro n
    induction n with
    | zero => exact World.SameGround.refl _
    | succ n ih =>
      rw [Function.iterate_succ_apply']
      exact ih.trans (gapPass_ground (hclosed.congr ih))
  refine ⟨fun n => ?_, fun id hid => ?_⟩
  · unfold Database.managed
    rw [(hpasses n).positions]
  · obtain ⟨p, hp, rfl, hmode⟩ := hprojected id hid
    exact not_reportsGap hp hmode

end

/-! ## A fill that joins an open position -/

/-- The gap of the sample intent: its order for one coin was filled at 100. -/
def sampleGap : GapEvidence where
  cycleId := "cycle-1"
  decisionId := "decision-1"
  intentId := "intent-1"
  clientOrderId := sampleClientOrderId
  exchangeOrderId := "77"
  direction := some .long
  candidate := .ok (some (sampleCandidate "BTC/USDT"))

/-- The exchange holds three coins. -/
def sampleGapRequest : GapRequest where
  symbol := "BTC/USDT"
  executionMode := .binanceTestnet
  fencingToken := "token-1"
  maxLeverage := 3
  snapshot := { positions := [{ symbol := "BTC/USDT", direction := .long, quantity := 3 }] }
  tickSize := .ok (1 / 10)

/-- The intent is acknowledged and its fill was never persisted; the positions are given. -/
def sampleGapWorld (positions : List PositionRow) : World where
  db :=
    { intents := [{ intentId := "intent-1", cycleId := "cycle-1", decisionId := none, symbol := "BTC/USDT",
                    direction := .long, candidateKey := "strategy", candidateType := .sampling,
                    executionMode := .binanceTestnet, initialRiskUsdt := some 1, state := .exchangeAcknowledged,
                    version := 2 }]
      orders := [{ orderRecordId := "order-1", intentId := "intent-1", clientOrderId := sampleClientOrderId,
                   exchangeOrderId := some "77", quantity := 1, leverage := 3 }]
      positions }
  exchange :=
    { behaviour := fun n => .answered (toString n) true (some "new")
      trades := fun id => .ok [{ exchangeOrderId := id, tradeId := "trade-1", filledQuantity := 1, fillPrice := 100, fee := 0,
                                 fillTimestamp := 0 }] }

/-- An open position of one coin that was never protected. -/
def sampleUnprotected : PositionRow where
  positionId := "position"
  intentId := "entry"
  orderRecordId := "entry-order"
  symbol := "BTC/USDT"
  direction := .long
  executionMode := .binanceTestnet
  quantity := 1
  entryPrice := 100
  entryFee := 0
  state := .positionProjected

/-- The fill joins the position in two passes, and the intent stays reported. -/
theorem gapFixpoint_false :
    (gapPass sampleGapRequest [sampleGap] (sampleGapWorld [sampleUnprotected])).db.managed = [("position", 2, 100, 0)] ∧
    ((gapPass sampleGapRequest [sampleGap])^[2] (sampleGapWorld [sampleUnprotected])).db.managed =
      [("position", 3, 100, 0)] ∧
    projectedIntents sampleGapRequest [sampleGap] (sampleGapWorld [sampleUnprotected]) = ["intent-1"] ∧
    (gapPass sampleGapRequest [sampleGap] (sampleGapWorld [sampleUnprotected])).db.ReportsGap .binanceTestnet "intent-1" ∧
    ¬GapFixpoint sampleGapRequest [sampleGap] (sampleGapWorld [sampleUnprotected]) := by
  have hfirst : (gapPass sampleGapRequest [sampleGap] (sampleGapWorld [sampleUnprotected])).db.managed =
      [("position", 2, 100, 0)] := by decide +kernel
  have hsecond : ((gapPass sampleGapRequest [sampleGap])^[2] (sampleGapWorld [sampleUnprotected])).db.managed =
      [("position", 3, 100, 0)] := by decide +kernel
  refine ⟨hfirst, hsecond, by decide +kernel, ?_, fun h => ?_⟩
  · unfold Database.ReportsGap
    decide +kernel
  · have hsame := h.1 1
    rw [hfirst, hsecond] at hsame
    simp at hsame

example : sampleGap.exact = true := by decide +kernel

/-- The adoption of the sample gap. -/
def sampleAdoption : GapAdoption where
  evidence := sampleGap
  direction := .long
  candidate := sampleCandidate "BTC/USDT"
  entryResult := sampleGap.entryResult (aggregateFills
    [{ exchangeOrderId := "77", tradeId := "trade-1", filledQuantity := 1, fillPrice := 100, fee := 0, fillTimestamp := 0 }])
    "BINANCE_USER_TRADE"
  exchangeQuantity := 3
  tickSize := 1 / 10

theorem sampleAdoption_decided :
    decideGap (sampleGapWorld []) sampleGapRequest sampleGap = .ok (.adopt sampleAdoption) := by
  have hexact : sampleGap.exact = true := by decide +kernel
  have hheld : (sampleGap.direction.bind fun d => (sampleGapRequest.snapshot.positionOf sampleGapRequest.symbol d).map
      fun p => (d, p)) = some (.long, { symbol := "BTC/USDT", direction := .long, quantity := 3 }) := by decide +kernel
  have hfill : confirmedGapFill (sampleGapWorld []).exchange sampleGap .long 3 = .ok (some sampleAdoption.entryResult) := by
    decide +kernel
  unfold decideGap
  rw [hexact, hheld]
  dsimp only
  rw [hfill]
  rfl

theorem sampleAdoption_confirmed : sampleAdoption.Confirmed (sampleGapWorld []) sampleGapRequest := by
  have hplan : sampleAdoption.plan (sampleGapWorld []).db sampleGapRequest = .ok sampleEntryPlan := by decide +kernel
  have hensure : (ensureProtection (sampleGapWorld []).exchange sampleEntryPlan).1 = .ok (activeResult "0" "1" [] 1) := by
    decide +kernel
  have hpersist : (persistEntryAndProtection (sampleAdoption.drawn (sampleGapWorld []).db sampleGapRequest)
      (sampleAdoption.facts (sampleGapWorld []).db sampleGapRequest (some sampleEntryPlan)
        (some (activeResult "0" "1" [] 1)))).toOption.isSome = true := by decide +kernel
  cases hdb : persistEntryAndProtection (sampleAdoption.drawn (sampleGapWorld []).db sampleGapRequest)
      (sampleAdoption.facts (sampleGapWorld []).db sampleGapRequest (some sampleEntryPlan)
        (some (activeResult "0" "1" [] 1))) with
  | error e =>
    rw [hdb] at hpersist
    nomatch hpersist
  | ok db =>
    exact ⟨by decide +kernel, sampleEntryPlan, activeResult "0" "1" [] 1, _, db, hplan, Prod.ext hensure rfl, rfl, hdb⟩

/-- Another decision of the sample intent. -/
def sampleGapAgain : GapEvidence := { sampleGap with decisionId := "decision-2" }

/-- Without an open position the fill is projected once, for two decisions too. -/
theorem gapFixpoint_twoDecisions : GapsSettle sampleGapRequest [sampleGap, sampleGapAgain] (sampleGapWorld []) ∧
    GapFixpoint sampleGapRequest [sampleGap, sampleGapAgain] (sampleGapWorld []) := by
  have hsettle : GapsSettle sampleGapRequest [sampleGap, sampleGapAgain] (sampleGapWorld []) := by
    refine .inr ⟨?_, .inr ⟨?_, trivial⟩⟩
    · unfold GapEvidence.Settles
      rw [sampleAdoption_decided]
      exact ⟨rfl, sampleAdoption_confirmed⟩
    · have hskip : decideGap (recoverEntryGap (sampleGapWorld []) sampleGapRequest sampleGap).2 sampleGapRequest sampleGapAgain =
          .ok .skip := if_pos (by decide +kernel)
      unfold GapEvidence.Settles
      rw [hskip]
      trivial
  exact ⟨hsettle, gapFixpoint_of_settle sampleGapRequest _ (sampleGapWorld []) (by decide) hsettle⟩

end TradingPlatform
