import TradingPlatform.Theorems.ForcedExit

/-!
# A chain of exits

Successive cycles force exits of one position until nothing is left of it. Every one of them derives its client id from the
position alone, so the exit intent of the first is the exit intent of all.
-/

namespace TradingPlatform

/-- A cycle that forces an exit of a position, with the account it reads and the trades the exchange confirms. -/
structure ExitLeg where
  cycle : ExitCycle
  snapshot : AuthoritativeAccountSnapshot
  exchangeOrderId : String
  fills : List ExchangeFillReceipt

/-- A cycle starts with a result of its own. -/
def ExitRun.fresh (s : ExitRun) : ExitRun := { s with exitSubmitted := false, errors := [] }

/-- The exit of the position in the cycle, as its row then stands. -/
def ExitLeg.run (leg : ExitLeg) (positionId : String) (s : ExitRun) : Except PyError Unit × ExitRun :=
  match s.db.position positionId with
  | none => (.ok (), s.fresh)
  | some p => leg.cycle.exitPosition leg.snapshot (s.db.localPosition p) s.fresh

/-- The cycles one after the other. -/
def runLegs (positionId : String) (legs : List ExitLeg) (s : ExitRun) : ExitRun :=
  legs.foldl (fun s leg => (leg.run positionId s).2) s

/-- The exchange confirms every leg and holds what the legs before it left, and the facts are persisted. -/
def LegsConfirmed (positionId : String) (direction : Direction) : ℚ → List ExitLeg → ExitRun → Prop
  | _, [], _ => True
  | held, leg :: rest, s =>
    leg.cycle.persistFacts = true ∧ s.exchange.Confirms leg.exchangeOrderId leg.fills ∧
      (∃ e, leg.snapshot.positionOf leg.cycle.symbol direction = some e ∧ e.quantity = held) ∧
      LegsConfirmed positionId direction (held - filledQuantityOf leg.fills) rest (leg.run positionId s).2

/-- Every leg is submitted and persisted without an error. -/
def LegsPersisted (positionId : String) : List ExitLeg → ExitRun → Prop
  | [], _ => True
  | leg :: rest, s =>
    (leg.run positionId s).1 = .ok () ∧ (leg.run positionId s).2.exitSubmitted = true ∧ (leg.run positionId s).2.errors = [] ∧
      LegsPersisted positionId rest (leg.run positionId s).2

/-- What a leg earns before fees. -/
def PositionRow.legPnl (p : PositionRow) (leg : ExitLeg) : ℚ :=
  let price := (aggregateFills leg.fills).vwap.getD 0
  match p.direction with
  | .long => (price - p.entryPrice) * filledQuantityOf leg.fills
  | .short => (p.entryPrice - price) * filledQuantityOf leg.fills

/-- What the legs earn after the fee of the entry and their own. -/
def PositionRow.legsPnl (p : PositionRow) (legs : List ExitLeg) : ℚ :=
  (legs.map p.legPnl).sum - p.entryFee - (legs.map fun leg => (aggregateFills leg.fills).fee).sum

/-- What the legs earn has no more decimals than its column. -/
def PositionRow.PnlFits (p : PositionRow) (legs : List ExitLeg) : Prop := Grid.OnGrid (1 / 10 ^ 4) (p.legsPnl legs)

/-- The quantity of the reduce-only fills. -/
def Database.reduceOnlyQuantity (db : Database) : ℚ :=
  ((db.fills.filter (·.reduceOnly)).map (·.filledQuantity)).sum

/-- The legs close the position, and what they filled and earned is recorded. -/
def LegsClose (p : PositionRow) (legs : List ExitLeg) (s : ExitRun) : Prop :=
  LegsPersisted p.positionId legs s ∧
    (∃ p', (runLegs p.positionId legs s).db.position p.positionId = some p' ∧ p'.state = .closed ∧
      p'.realizedPnl = some (p.legsPnl legs)) ∧
    (runLegs p.positionId legs s).db.reduceOnlyQuantity = s.db.reduceOnlyQuantity + p.quantity

section

variable {c : ExitCycle} {snapshot : AuthoritativeAccountSnapshot} {pos : LocalPositionView} {s : ExitRun}
  {exchangeOrderId : String} {fills : List ExchangeFillReceipt} {p : PositionRow} {r : IntentRow}

/-- `persist_exit_result` of a confirmed result raises if its exit intent is settled and its position is not closed. -/
theorem persistExitResult_settled {db : Database} {a : ExitFacts} (hstatus : a.result.status = .closed ∨
    a.result.status = .partiallyReduced) (hr : db.intent (exitIntentId a.result.clientOrderId) = some r)
    (hstate : r.state.pending = false) (hp : db.position a.positionId = some p) (hopen : p.state ≠ .closed) :
    ∃ e, (persistExitResult db a).1 = .error e := by
  have hconfirmed : ¬(a.result.status ≠ .closed ∧ a.result.status ≠ .partiallyReduced) := by
    rintro ⟨hnotClosed, hnotReduced⟩
    exact hstatus.elim hnotClosed hnotReduced
  unfold persistExitResult
  rw [if_neg hconfirmed]
  split
  · exact ⟨_, rfl⟩
  · simp only [hp, ne_eq, hopen, not_false_eq_true, if_true]
    exact persistConfirmedExit_settled hr hstate

theorem ExitRun.record_errors (s : ExitRun) (what : String) (out : Except PyError Unit) :
    (s.record what out).errors = [] ↔ s.errors = [] ∧ out = .ok () := by
  unfold ExitRun.record
  cases out with
  | ok u => simp
  | error e => simp

/-- The persistence of a confirmed result under a settled exit intent is recorded as an error. -/
theorem ExitCycle.persist_settled {result : ExitExecutionResult} (hpersists : c.persistFacts = true)
    (hstatus : result.status = .closed ∨ result.status = .partiallyReduced)
    (hr : s.db.intent (exitIntentId result.clientOrderId) = some r) (hstate : r.state.pending = false)
    (hp : s.db.position pos.positionId = some p) (hopen : p.state ≠ .closed) : (c.persist pos result s).errors ≠ [] := by
  unfold ExitCycle.persist
  simp only [hpersists, Bool.not_true, Bool.false_eq_true, if_false, if_pos hstatus]
  intro hnone
  obtain ⟨hfirst, hsecond⟩ := (ExitRun.record_errors _ _ _).mp hnone
  obtain ⟨-, hsubmission⟩ := (ExitRun.record_errors _ _ _).mp hfirst
  cases hack : persistExitSubmissionResult s.db pos.positionId result with
  | error e =>
    rw [hack] at hsubmission
    nomatch hsubmission
  | ok db₂ =>
    rw [hack] at hsecond
    have hr₂ := persistExitSubmissionResult_intent hr hstate hack
    obtain ⟨p₂, hp₂, hopen₂⟩ : ∃ p₂, db₂.position pos.positionId = some p₂ ∧ p₂.state ≠ .closed := by
      rcases persistExitSubmissionResult_position hp hack with hsame | hreducing
      · exact ⟨p, hsame, hopen⟩
      · exact ⟨p.startedReducing, hreducing, fun h => hopen (p.startedReducing_closed.mp h)⟩
    obtain ⟨e, he⟩ := persistExitResult_settled (a := c.facts pos result) hstatus hr₂ hstate hp₂ hopen₂
    have hok : (persistExitResult db₂ (c.facts pos result)).1 = .ok () := hsecond
    rw [he] at hok
    nomatch hok

/-- With its exit intent settled, a position is not exited again: nothing is submitted, or the persistence fails. -/
theorem ExitCycle.exitPosition_settled {clientOrderId : String} (hpersists : c.persistFacts = true)
    (hclient : exitClientOrderId pos.positionId = .ok clientOrderId)
    (hr : s.db.intent (exitIntentId clientOrderId) = some r) (hstate : r.state.pending = false)
    (hp : s.db.position pos.positionId = some p) (hpos : pos.state = p.state)
    (hconfirms : s.exchange.Confirms exchangeOrderId fills) (hfresh : s.exitSubmitted = false) :
    ¬((c.exitPosition snapshot pos s).2.exitSubmitted = true ∧ (c.exitPosition snapshot pos s).2.errors = []) := by
  have hnot : ¬(s.exitSubmitted = true ∧ s.errors = []) := by simp [hfresh]
  unfold ExitCycle.exitPosition
  dsimp only
  split
  · exact hnot
  · rename_i hskip
    have hopen : p.state ≠ .closed := by
      intro hclosed
      exact hskip (.inr (.inl (hpos.trans hclosed)))
    split
    · exact hnot
    · split
      · exact hnot
      · rename_i decision hdecided
        split
        · rename_i happroved
          obtain ⟨-, -, -, -, -, hstep, -, hclient'⟩ := evaluateExit_approved hdecided happroved
          have hstep : 0 < c.stepSize := hstep
          obtain rfl : decision.clientOrderId = clientOrderId := Except.ok.inj (hclient'.symm.trans hclient)
          unfold ExitCycle.submit
          simp only [hpersists, if_true]
          cases hprepare : persistExitIntentBeforeSubmission s.db (c.identity pos decision) with
          | error e =>
            simp only [transaction_error]
            rintro ⟨-, herrors⟩
            obtain ⟨-, hok⟩ := (ExitRun.record_errors _ _ _).mp herrors
            nomatch hok
          | ok db₁ =>
            have hr₁ : db₁.intent (exitIntentId decision.clientOrderId) = some r :=
              persistExitIntentBeforeSubmission_intent (a := c.identity pos decision) hr hprepare
            have hp₁ : db₁.position pos.positionId = some p := by
              unfold Database.position
              rw [((persistExitIntentBeforeSubmission_touches hprepare).positions (by decide))]
              exact hp
            rw [executeReduceOnlyExit_confirmed hconfirms happroved hstep]
            simp only [transaction_ok]
            rintro ⟨-, herrors⟩
            exact ExitCycle.persist_settled hpersists (confirmedExit_status _ _ _ _) hr₁ hstate hp₁ hopen herrors
        · exact hnot

/-- The reduce-only fills of a settled exit are its own beside those there were. -/
theorem ExitSettled.reduceOnlyQuantity {db db' : Database} {a : ExitFacts} {o : OrderRow} (h : ExitSettled db db' a p r o)
    (hgiven : a.result.tradeIds ≠ []) : db'.reduceOnlyQuantity = db.reduceOnlyQuantity + a.result.reducedQuantity := by
  obtain ⟨rows, hfills, hrows⟩ := h.fills
  have hreduceOnly : rows.filter (·.reduceOnly) = rows := by
    refine List.filter_eq_self.mpr fun f hf => ?_
    obtain ⟨share, -, fillId, rfl⟩ := hrows.row hf
    rfl
  unfold Database.reduceOnlyQuantity
  rw [hfills, List.filter_append, hreduceOnly, List.map_append, List.sum_append, hrows.quantities]
  exact congrArg _ (splitQuantity_sum hgiven)

/-- What one leg earns is the result of its exit. -/
theorem PositionRow.legsPnl_singleton (p : PositionRow) (leg : ExitLeg) (decision : ExitDecision) (remaining : ℚ) :
    p.legsPnl [leg] = p.exitPnl (confirmedExit decision leg.exchangeOrderId leg.fills remaining) := by
  unfold PositionRow.legsPnl PositionRow.legPnl PositionRow.exitPnl
  simp only [List.map_cons, List.map_nil, List.sum_cons, List.sum_nil, add_zero]
  rfl

variable {leg : ExitLeg} {rest : List ExitLeg} {decision : ExitDecision}

theorem ExitLeg.run_eq (leg : ExitLeg) (hp : s.db.position p.positionId = some p) :
    leg.run p.positionId s = leg.cycle.exitPosition leg.snapshot (s.db.localPosition p) s.fresh := by
  unfold ExitLeg.run
  rw [hp]

end

/-! ## Two legs of the sample -/

/-- A leg of the sample, on an account that holds a quantity of it. -/
def sampleLeg (held : ℚ) (exchangeOrderId : String) (trade : ExchangeFillReceipt) : ExitLeg where
  cycle := sampleExitCycle
  snapshot := sampleSnapshot held
  exchangeOrderId := exchangeOrderId
  fills := [trade]

/-- The trade of the second leg. -/
def sampleSecondTrade : ExchangeFillReceipt where
  exchangeOrderId := "201"
  tradeId := "3"
  filledQuantity := 3 / 5
  fillPrice := 120
  fee := 1 / 20
  fillTimestamp := 8

/-- The sample at an exchange that fills 2/5 of the first order and 3/5 of the second. -/
def sampleChainRun : ExitRun where
  db := sampleExitDatabase
  exchange :=
    { behaviour := fun n => .answered (if n = 0 then "200" else "201") true (some "FILLED")
      trades := fun id => .ok (if id = "200" then [sampleTrade (2 / 5)] else [sampleSecondTrade]) }

/-- The two legs. -/
def sampleLegs : List ExitLeg :=
  [sampleLeg 1 "200" (sampleTrade (2 / 5)), sampleLeg (3 / 5) "201" sampleSecondTrade]

theorem confirms_singleton {x : Exchange} {exchangeOrderId : String} {trade : ExchangeFillReceipt} (hgateway : x.gatewayError = none)
    (hanswered : (x.behaviour x.calls).readableId = some exchangeOrderId) (htrades : x.trades exchangeOrderId = .ok [trade])
    (hquantity : 0 < trade.filledQuantity) (hprice : 0 < trade.fillPrice) : x.Confirms exchangeOrderId [trade] where
  gateway := hgateway
  answered := hanswered
  trades := htrades
  given := nofun
  quantity := by simpa using hquantity
  price := by simpa using hprice

end TradingPlatform
