import Mathlib.Data.List.Induction
import TradingPlatform.Engine.ExecutionStateMachine

/-!
# Fills of the execution state machine

The machine drops an event of the instant of the last one unless its state has a higher priority, and with the event the
quantity it carries. Everything else the reducer promises holds on every delivery.
-/

namespace TradingPlatform

open ExecutionStateMachine

/-! ## The statement -/

/-- The event is legal from the state. -/
def ExchangeOrderEvent.Legal (e : ExchangeOrderEvent) (state : ExecutionState) : Prop :=
  e.state = state ∨ e.state ∈ allowedTransitions state

/-- Events are delivered to the machine: ids tell them apart, and one that was not delivered before is legal from the state it
meets, no earlier than those before it, and carries no less. -/
def EventDelivery (m : ExecutionStateMachine) (delivered : List ExchangeOrderEvent) : List ExchangeOrderEvent → Prop
  | [] => True
  | e :: rest =>
    (∀ e' ∈ delivered, e'.eventId = e.eventId → e' = e) ∧
      (e ∉ delivered → e.Legal m.state ∧
        ∀ e' ∈ delivered, e'.exchangeUpdateTime ≤ e.exchangeUpdateTime ∧ e'.filledQuantity ≤ e.filledQuantity) ∧
      EventDelivery (m.applyExchangeEvent e).2 (delivered ++ [e]) rest

/-- The most that was delivered, from nothing. -/
def maxFilled (events : List ExchangeOrderEvent) : ℚ := (events.map (·.filledQuantity)).foldl max 0

/-- What the machine owes to a delivery. -/
structure NoFillLost (m : ExecutionStateMachine) (events : List ExchangeOrderEvent) : Prop where
  filled : ∀ p, p <+: events → (m.run p).filledQuantity = maxFilled p
  duplicates : ∀ p e, p ++ [e] <+: events → e ∈ p → (m.run p).applyExchangeEvent e = (.ok false, m.run p)
  monotone : ∀ p e, p ++ [e] <+: events → (m.run p).filledQuantity ≤ (m.run (p ++ [e])).filledQuantity
  raised : ∀ p e err m', (m.run p).applyExchangeEvent e = (.error err, m') → m' = m.run p

/-- An event that is dropped for its priority carries no more than is recorded. -/
def KeepsFill (m : ExecutionStateMachine) (e : ExchangeOrderEvent) : Prop :=
  e.eventId ∉ m.eventIds → m.lastExchangeUpdateTime = some e.exchangeUpdateTime →
    statePriority e.state ≤ statePriority m.state → e.filledQuantity ≤ m.filledQuantity

namespace FillAux

variable {m m' : ExecutionStateMachine} {e e' : ExchangeOrderEvent} {d : List ExchangeOrderEvent}

/-! ## One event -/

theorem transition_legal (h : e.Legal m.state) : m.transition e.state = (.ok (), { m with state := e.state }) := by
  unfold transition
  by_cases hsame : e.state = m.state
  · rw [if_pos hsame, hsame]
  · rw [if_neg hsame, if_neg (not_not.mpr (h.resolve_left hsame))]

theorem transition_illegal (h : ¬e.Legal m.state) : ∃ err, m.transition e.state = (.error err, m) := by
  obtain ⟨hsame, hillegal⟩ := not_or.mp h
  unfold transition
  rw [if_neg hsame, if_pos hillegal]
  exact ⟨_, rfl⟩

/-- The machine after an event that is neither seen nor outdated, and legal. -/
def accepted (m : ExecutionStateMachine) (e : ExchangeOrderEvent) : ExecutionStateMachine :=
  { state := e.state, filledQuantity := max m.filledQuantity e.filledQuantity,
    lastExchangeUpdateTime := some e.exchangeUpdateTime, eventIds := m.eventIds ++ [e.eventId] }

theorem applyExchangeEvent_seen (h : e.eventId ∈ m.eventIds) : m.applyExchangeEvent e = (.ok false, m) := if_pos h

theorem applyExchangeEvent_outdated (h : m.outdated e = true) : m.applyExchangeEvent e = (.ok false, m) := by
  unfold applyExchangeEvent
  rw [if_pos h]
  exact ite_self _

theorem applyExchangeEvent_accepted (hseen : e.eventId ∉ m.eventIds) (hnew : m.outdated e = false) (hlegal : e.Legal m.state) :
    m.applyExchangeEvent e = (.ok true, accepted m e) := by
  unfold applyExchangeEvent
  rw [if_neg hseen, hnew, if_neg Bool.false_ne_true, transition_legal hlegal]
  rfl

/-- Every call does nothing, raises and does nothing, or accepts the event. -/
theorem applyExchangeEvent_cases (m : ExecutionStateMachine) (e : ExchangeOrderEvent) :
    (∃ out, out ≠ .ok true ∧ m.applyExchangeEvent e = (out, m)) ∨ m.applyExchangeEvent e = (.ok true, accepted m e) := by
  by_cases hseen : e.eventId ∈ m.eventIds
  · exact .inl ⟨.ok false, nofun, applyExchangeEvent_seen hseen⟩
  · cases hnew : m.outdated e with
    | true => exact .inl ⟨.ok false, nofun, applyExchangeEvent_outdated hnew⟩
    | false =>
      by_cases hlegal : e.Legal m.state
      · exact .inr (applyExchangeEvent_accepted hseen hnew hlegal)
      · obtain ⟨err, herr⟩ := transition_illegal hlegal
        refine .inl ⟨.error err, nofun, ?_⟩
        unfold applyExchangeEvent
        rw [if_neg hseen, hnew, if_neg Bool.false_ne_true, herr]

/-! ## What was delivered -/

theorem maxFilled_append : maxFilled (d ++ [e]) = max (maxFilled d) e.filledQuantity := by
  unfold maxFilled
  rw [List.map_append, List.foldl_append]
  rfl

theorem maxFilled_append_of_mem (h : e ∈ d) : maxFilled (d ++ [e]) = maxFilled d := by
  rw [maxFilled_append]
  refine max_eq_left ?_
  induction d using List.reverseRecOn with
  | nil => nomatch h
  | append_singleton d e' ih =>
    rw [maxFilled_append]
    rcases List.mem_append.mp h with h | h
    · exact (ih h).trans (le_max_left _ _)
    · obtain rfl := List.mem_singleton.mp h
      exact le_max_right _ _

/-- The machine received what was delivered: its instant and its ids are of it, and nothing of it will be taken again. -/
structure Received (m : ExecutionStateMachine) (d : List ExchangeOrderEvent) : Prop where
  start : m.lastExchangeUpdateTime = none → d = []
  instant : ∀ t, m.lastExchangeUpdateTime = some t → ∃ e ∈ d, e.exchangeUpdateTime = t
  ids : ∀ id ∈ m.eventIds, ∃ e ∈ d, e.eventId = id
  settled : ∀ e ∈ d, e.eventId ∈ m.eventIds ∨ m.outdated e = true

theorem Received.repeated (h : Received m d) (he : e ∈ d) : m.applyExchangeEvent e = (.ok false, m) := by
  rcases h.settled e he with hseen | hold
  · exact applyExchangeEvent_seen hseen
  · exact applyExchangeEvent_outdated hold

/-- A machine that does not take an event of the instant has received it. -/
theorem Received.keep (h : Received m d) (he : e ∈ d ∨ m.outdated e = true) : Received m (d ++ [e]) := by
  refine ⟨fun hnone => ?_, fun t ht => ?_, fun id hid => ?_, fun e' he' => ?_⟩
  · obtain rfl := h.start hnone
    rcases he with he | he
    · nomatch he
    · unfold outdated at he
      rw [hnone] at he
      nomatch he
  · obtain ⟨e', he', htime⟩ := h.instant t ht
    exact ⟨e', List.mem_append_left _ he', htime⟩
  · obtain ⟨e', he', hid'⟩ := h.ids id hid
    exact ⟨e', List.mem_append_left _ he', hid'⟩
  · rcases List.mem_append.mp he' with he' | he'
    · exact h.settled e' he'
    · obtain rfl := List.mem_singleton.mp he'
      rcases he with he | he
      · exact h.settled e' he
      · exact .inr he

/-- An event that is taken outdates those that were not: they are older, or of its instant and of a lower priority. -/
theorem Received.accept (h : Received m d) (hnew : m.outdated e = false)
    (horder : ∀ e' ∈ d, e'.exchangeUpdateTime ≤ e.exchangeUpdateTime) : Received (accepted m e) (d ++ [e]) := by
  refine ⟨nofun, fun t ht => ?_, fun id hid => ?_, fun e' he' => ?_⟩
  · exact ⟨e, List.mem_append_right _ List.mem_cons_self, Option.some.inj ht⟩
  · rcases List.mem_append.mp hid with hid | hid
    · obtain ⟨e', he', hid'⟩ := h.ids id hid
      exact ⟨e', List.mem_append_left _ he', hid'⟩
    · exact ⟨e, List.mem_append_right _ List.mem_cons_self, (List.mem_singleton.mp hid).symm⟩
  · rcases List.mem_append.mp he' with he' | he'
    · rcases h.settled e' he' with hseen | hold
      · exact .inl (List.mem_append_left _ hseen)
      · right
        have hle := horder e' he'
        unfold outdated at hold hnew ⊢
        change (decide (e'.exchangeUpdateTime < e.exchangeUpdateTime) ||
          decide (e'.exchangeUpdateTime = e.exchangeUpdateTime ∧ statePriority e'.state ≤ statePriority e.state)) = true
        cases hlast : m.lastExchangeUpdateTime with
        | none =>
          rw [hlast] at hold
          nomatch hold
        | some last =>
          rw [hlast] at hold hnew
          simp only [Bool.or_eq_true, Bool.or_eq_false_iff, decide_eq_true_eq, decide_eq_false_iff_not] at hold hnew ⊢
          omega
    · obtain rfl := List.mem_singleton.mp he'
      exact .inl (List.mem_append_right _ List.mem_cons_self)

/-! ## One delivery -/

/-- What one delivery is: a repetition, an event dropped for its priority, or one that is accepted. -/
theorem delivery_cases (h : Received m d) (hids : ∀ e' ∈ d, e'.eventId = e.eventId → e' = e)
    (hfirst : e ∉ d → e.Legal m.state ∧
      ∀ e' ∈ d, e'.exchangeUpdateTime ≤ e.exchangeUpdateTime ∧ e'.filledQuantity ≤ e.filledQuantity) :
    (e ∈ d ∧ m.applyExchangeEvent e = (.ok false, m)) ∨
      (e.eventId ∉ m.eventIds ∧ m.lastExchangeUpdateTime = some e.exchangeUpdateTime ∧
        statePriority e.state ≤ statePriority m.state ∧ m.outdated e = true ∧ m.applyExchangeEvent e = (.ok false, m)) ∨
      (m.outdated e = false ∧ (∀ e' ∈ d, e'.exchangeUpdateTime ≤ e.exchangeUpdateTime) ∧
        m.applyExchangeEvent e = (.ok true, accepted m e)) := by
  by_cases hmem : e ∈ d
  · exact .inl ⟨hmem, h.repeated hmem⟩
  · obtain ⟨hlegal, horder⟩ := hfirst hmem
    have hseen : e.eventId ∉ m.eventIds := by
      intro hseen
      obtain ⟨e', he', hid⟩ := h.ids _ hseen
      exact hmem (hids e' he' hid ▸ he')
    cases hnew : m.outdated e with
    | false => exact .inr (.inr ⟨rfl, fun e' he' => (horder e' he').1, applyExchangeEvent_accepted hseen hnew hlegal⟩)
    | true =>
      have hold := hnew
      unfold outdated at hold
      cases hlast : m.lastExchangeUpdateTime with
      | none =>
        rw [hlast] at hold
        nomatch hold
      | some last =>
        obtain ⟨e', he', htime⟩ := h.instant last hlast
        have hle := (horder e' he').1
        rw [hlast] at hold
        simp only [Bool.or_eq_true, decide_eq_true_eq] at hold
        -- nothing delivered before is later, so the event is of the instant of the last one
        have hsame : e.exchangeUpdateTime = last := by omega
        have hpriority : statePriority e.state ≤ statePriority m.state := by
          rcases hold with hold | hold
          · omega
          · exact hold.2
        exact .inr (.inl ⟨hseen, by rw [hsame], hpriority, rfl, applyExchangeEvent_outdated hnew⟩)

theorem Received.step (h : Received m d) {rest : List ExchangeOrderEvent} (hd : EventDelivery m d (e :: rest)) :
    Received (m.applyExchangeEvent e).2 (d ++ [e]) := by
  rcases delivery_cases h hd.1 hd.2.1 with ⟨hmem, happly⟩ | ⟨-, -, -, hold, happly⟩ | ⟨hnew, horder, happly⟩
  · rw [happly]
    exact h.keep (.inl hmem)
  · rw [happly]
    exact h.keep (.inr hold)
  · rw [happly]
    exact h.accept hnew horder

/-- The machine keeps the most that was delivered exactly if the event keeps its fill. -/
theorem filled_step_iff (h : Received m d) {rest : List ExchangeOrderEvent} (hd : EventDelivery m d (e :: rest))
    (heq : m.filledQuantity = maxFilled d) :
    (m.applyExchangeEvent e).2.filledQuantity = maxFilled (d ++ [e]) ↔ KeepsFill m e := by
  rcases delivery_cases h hd.1 hd.2.1 with ⟨hmem, happly⟩ | ⟨hseen, htime, hpriority, -, happly⟩ | ⟨hnew, -, happly⟩
  · have hsame := maxFilled_append_of_mem hmem
    rw [happly, hsame]
    refine iff_of_true heq fun _ _ _ => ?_
    rw [heq, ← hsame, maxFilled_append]
    exact le_max_right _ _
  · rw [happly, maxFilled_append, ← heq, eq_comm, max_eq_left_iff]
    exact ⟨fun hle _ _ _ => hle, fun hkeeps => hkeeps hseen htime hpriority⟩
  · rw [happly, maxFilled_append, ← heq]
    refine iff_of_true rfl fun _ htime hpriority => ?_
    unfold outdated at hnew
    rw [htime] at hnew
    simp [hpriority] at hnew

/-! ## Every delivery -/

theorem received_run {es : List ExchangeOrderEvent} (h : Received m d) (hd : EventDelivery m d es) :
    ∀ p, p <+: es → Received (m.run p) (d ++ p) := by
  induction es generalizing m d with
  | nil =>
    intro p hp
    obtain rfl := List.prefix_nil.mp hp
    rw [List.append_nil]
    exact h
  | cons e rest ih =>
    intro p hp
    cases p with
    | nil =>
      rw [List.append_nil]
      exact h
    | cons e' q =>
      obtain ⟨rfl, hq⟩ := List.cons_prefix_cons.mp hp
      have hnext := ih (h.step hd) hd.2.2 q hq
      rw [List.append_assoc] at hnext
      exact hnext

/-- The machine keeps the most that was delivered at every point exactly if every event keeps its fill. -/
theorem filled_run_iff {es : List ExchangeOrderEvent} (h : Received m d) (hd : EventDelivery m d es)
    (heq : m.filledQuantity = maxFilled d) :
    (∀ p, p <+: es → (m.run p).filledQuantity = maxFilled (d ++ p)) ↔
      ∀ p e, p ++ [e] <+: es → KeepsFill (m.run p) e := by
  induction es generalizing m d with
  | nil =>
    constructor
    · intro _ p e hp
      exact absurd (List.prefix_nil.mp hp) (by simp)
    · intro _ p hp
      obtain rfl := List.prefix_nil.mp hp
      rw [List.append_nil]
      exact heq
  | cons e rest ih =>
    have hhead := filled_step_iff h hd heq
    have happend : ∀ q, d ++ e :: q = d ++ [e] ++ q := fun q => by rw [List.append_assoc, List.singleton_append]
    constructor
    · intro hall
      have hfirst : (m.applyExchangeEvent e).2.filledQuantity = maxFilled (d ++ [e]) :=
        hall [e] (List.cons_prefix_cons.mpr ⟨rfl, List.nil_prefix⟩)
      have hrest := (ih (h.step hd) hd.2.2 hfirst).mp fun q hq => by
        rw [← happend]
        exact hall (e :: q) (List.cons_prefix_cons.mpr ⟨rfl, hq⟩)
      intro p e' hp
      cases p with
      | nil =>
        obtain ⟨rfl, -⟩ := List.cons_prefix_cons.mp hp
        exact hhead.mp hfirst
      | cons e'' q =>
        obtain ⟨rfl, hq⟩ := List.cons_prefix_cons.mp hp
        exact hrest q e' hq
    · intro hkeeps
      have hfirst := hhead.mpr (hkeeps [] e (List.cons_prefix_cons.mpr ⟨rfl, List.nil_prefix⟩))
      have hrest := (ih (h.step hd) hd.2.2 hfirst).mpr fun q e' hq =>
        hkeeps (e :: q) e' (List.cons_prefix_cons.mpr ⟨rfl, hq⟩)
      intro p hp
      cases p with
      | nil =>
        rw [List.append_nil]
        exact heq
      | cons e' q =>
        obtain ⟨rfl, hq⟩ := List.cons_prefix_cons.mp hp
        rw [happend]
        exact hrest q hq

theorem received_new (state : ExecutionState) : Received { state } [] :=
  ⟨fun _ => rfl, nofun, nofun, nofun⟩

theorem run_append_singleton (p : List ExchangeOrderEvent) : m.run (p ++ [e]) = ((m.run p).applyExchangeEvent e).2 := by
  unfold run
  rw [List.foldl_append]
  rfl

end FillAux

open FillAux

/-- On a delivery to a new machine no fill is lost exactly if no event that is dropped for its priority carries more than is
recorded. -/
theorem noFillLost_iff (state : ExecutionState) (events : List ExchangeOrderEvent) (h : EventDelivery { state } [] events) :
    NoFillLost { state } events ↔
      ∀ p e, p ++ [e] <+: events → KeepsFill (({ state } : ExecutionStateMachine).run p) e := by
  have hnew := received_new state
  have hfilled := filled_run_iff hnew h rfl
  simp only [List.nil_append] at hfilled
  rw [← hfilled]
  refine ⟨fun hkept => hkept.filled, fun hall => ⟨hall, fun p e hp he => ?_, fun p e hp => ?_, fun p e err m' hraise => ?_⟩⟩
  · exact (received_run hnew h p ((List.prefix_append p [e]).trans hp)).repeated he
  · rw [run_append_singleton]
    rcases applyExchangeEvent_cases (({ state } : ExecutionStateMachine).run p) e with ⟨out, -, happly⟩ | happly
    · rw [happly]
    · rw [happly]
      exact le_max_left _ _
  · rcases applyExchangeEvent_cases (({ state } : ExecutionStateMachine).run p) e with ⟨out, -, happly⟩ | happly
    · rw [happly] at hraise
      exact (Prod.mk.inj hraise).2.symm
    · rw [happly] at hraise
      nomatch (Prod.mk.inj hraise).1

/-- A fill of an order at an instant. -/
def fillEvent (eventId : String) (state : ExecutionState) (filledQuantity : ℚ) (exchangeUpdateTime : ℕ) : ExchangeOrderEvent :=
  { eventId, clientOrderId := "aqrp-1", state, filledQuantity, exchangeUpdateTime }

/-- Two partial fills of one instant: the second is dropped. -/
theorem noFillLost_false :
    EventDelivery { state := .submitted } [] [fillEvent "1" .partiallyFilled 1 1000, fillEvent "2" .partiallyFilled 2 1000] ∧
    ¬NoFillLost { state := .submitted } [fillEvent "1" .partiallyFilled 1 1000, fillEvent "2" .partiallyFilled 2 1000] := by
  constructor
  · unfold EventDelivery EventDelivery EventDelivery ExchangeOrderEvent.Legal
    decide +kernel
  · intro h
    exact absurd (h.filled _ (List.prefix_refl _)) (by decide +kernel)

/-- A partial fill, its repetition, and the rest of the order an instant later. -/
theorem noFillLost_later :
    NoFillLost { state := .submitted }
      [fillEvent "1" .partiallyFilled 1 1000, fillEvent "1" .partiallyFilled 1 1000, fillEvent "2" .filled 2 1001] := by
  refine (noFillLost_iff .submitted _ ?_).mpr ?_
  · unfold EventDelivery EventDelivery EventDelivery EventDelivery ExchangeOrderEvent.Legal
    decide +kernel
  · intro p e hp
    have hlength := hp.length_le
    unfold KeepsFill
    match p with
    | [] =>
      obtain ⟨rfl, -⟩ := List.cons_prefix_cons.mp hp
      decide +kernel
    | [_] =>
      obtain ⟨rfl, hp₁⟩ := List.cons_prefix_cons.mp hp
      obtain ⟨rfl, -⟩ := List.cons_prefix_cons.mp hp₁
      decide +kernel
    | [_, _] =>
      obtain ⟨rfl, hp₁⟩ := List.cons_prefix_cons.mp hp
      obtain ⟨rfl, hp₂⟩ := List.cons_prefix_cons.mp hp₁
      obtain ⟨rfl, -⟩ := List.cons_prefix_cons.mp hp₂
      decide +kernel
    | _ :: _ :: _ :: _ =>
      simp only [List.length_append, List.length_cons, List.length_nil] at hlength
      omega

end TradingPlatform
