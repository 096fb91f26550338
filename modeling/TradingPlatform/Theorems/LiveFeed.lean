import Mathlib.Data.List.Nodup
import TradingPlatform.Engine.LiveFeed

/-!
# Delivery of the live feed

The queue of each subscription is a mailbox of what was published to its key, in every run, and the bus counts what the mailboxes of
a key gave up.
-/

namespace TradingPlatform

namespace LiveFeed

/-! ## The statement -/

/-- How many payloads a subscription skipped. -/
def skippedBy (f : LiveFeed) (q : ℕ) : ℕ := Mailbox.skipped (f.published q) (f.consumed q) (f.queues q)

/-- Each subscription has got a subsequence of what was published to its key and is left with the end of it, at most so many
payloads, and the count of a key is what its subscriptions skipped. -/
structure Delivers (bound : ℕ) (f : LiveFeed) : Prop where
  kept : ∀ q < f.subscriptions.length, Mailbox.Keeps bound (f.published q) (f.consumed q) (f.queues q)
  accounted : ∀ key, (f.bus.stateFor key).droppedCount = ((f.subscriptionsOf key).map f.skippedBy).sum

end LiveFeed

namespace LiveFeedAux

open LiveFeed Mailbox

variable {f : LiveFeed} {key key' : FeedKey} {q : ℕ}

/-- The invariant of a run: the queues of a key are those of its live subscriptions, and a queue that no one has is unused. -/
structure Holds (f : LiveFeed) : Prop where
  listed : ∀ key, (f.bus.queuesOf key).Perm ((f.subscriptionsOf key).filter f.live)
  kept : ∀ q, Keeps f.bus.maxQueueSize (f.published q) (f.consumed q) (f.queues q)
  unused : ∀ q, f.subscriptions.length ≤ q → f.live q = false ∧ f.published q = [] ∧ f.consumed q = [] ∧ f.queues q = []
  accounted : ∀ key, (f.bus.stateFor key).droppedCount = ((f.subscriptionsOf key).map f.skippedBy).sum

/-! ## The states of the bus -/

@[simp] theorem stateFor_setState_self (bus : LiveFeedBus) (key : FeedKey) (state : LiveFeedState) :
    (bus.setState key state).stateFor key = state := by
  simp [LiveFeedBus.stateFor, LiveFeedBus.setState]

theorem stateFor_setState_ne (bus : LiveFeedBus) (state : LiveFeedState) (h : key' ≠ key) :
    (bus.setState key state).stateFor key' = bus.stateFor key' := by
  simp [LiveFeedBus.stateFor, LiveFeedBus.setState, h]

@[simp] theorem queuesOf_setState (bus : LiveFeedBus) (key key' : FeedKey) (state : LiveFeedState) :
    (bus.setState key state).queuesOf key' = bus.queuesOf key' := rfl

/-- A state that keeps the count of its key keeps every count. -/
theorem droppedCount_setState {bus : LiveFeedBus} {state : LiveFeedState}
    (h : state.droppedCount = (bus.stateFor key).droppedCount) (key' : FeedKey) :
    ((bus.setState key state).stateFor key').droppedCount = (bus.stateFor key').droppedCount := by
  by_cases hkey : key' = key
  · subst hkey
    simp [h]
  · rw [stateFor_setState_ne bus state hkey]

/-! ## Subscriptions -/

theorem mem_subscriptionsOf : q ∈ f.subscriptionsOf key ↔ f.subscriptions[q]? = some key := by
  unfold subscriptionsOf
  simp only [List.mem_filter, List.mem_range, decide_eq_true_eq, and_iff_right_iff_imp]
  intro h
  exact (List.getElem?_eq_some_iff.mp h).1

theorem nodup_subscriptionsOf (f : LiveFeed) (key : FeedKey) : (f.subscriptionsOf key).Nodup :=
  List.nodup_range.filter _

/-! ## Delivery -/

/-- Each of the queues is offered the payload, and one payload is dropped for each queue that is full. -/
theorem deliver_eq (bound : ℕ) (payload : LivePayload) (queues : ℕ → List LivePayload) (dropped : ℕ) {l : List ℕ} (hl : l.Nodup) :
    deliver bound payload queues dropped l =
      (fun q => if q ∈ l then offer bound (queues q) payload else queues q, dropped + l.countP fun q => full bound (queues q)) := by
  induction l generalizing queues dropped with
  | nil => simp [deliver]
  | cons a l ih =>
    obtain ⟨ha, hl⟩ := List.nodup_cons.mp hl
    rw [deliver, ih _ _ hl]
    have hcount : (l.countP fun q => full bound (Function.update queues a (offer bound (queues a) payload) q)) =
        l.countP fun q => full bound (queues q) := by
      refine List.countP_congr fun q hq => ?_
      rw [Function.update_of_ne (ne_of_mem_of_not_mem hq ha)]
    refine Prod.ext (funext fun q => ?_) ?_
    · by_cases hqa : q = a
      · subst hqa
        simp [ha]
      · simp [hqa]
    · rw [hcount, List.countP_cons]
      dsimp only
      split <;> omega

/-! ## Steps -/

/-- The log of a queue is what the events publish to it. -/
theorem published_step (f : LiveFeed) (e : Event) (q : ℕ) : (f.step e).published q = f.published q ++ f.publishedTo q e := by
  have hnone : f.published q = f.published q ++ [] := (List.append_nil _).symm
  cases e with
  | publish bar source publishedAt now => rfl
  | setError key error now => exact hnone
  | subscribe key => exact hnone
  | unsubscribe queue =>
    unfold LiveFeed.step LiveFeed.unsubscribe
    dsimp only
    split <;> exact hnone
  | get queue =>
    unfold LiveFeed.step LiveFeed.get
    dsimp only
    split <;> exact hnone

theorem holds_init (maxQueueSize : ℕ) : Holds (init maxQueueSize) := by
  refine ⟨fun key => List.Perm.refl _, fun q => Keeps.empty maxQueueSize, fun q _ => ⟨rfl, rfl, rfl, rfl⟩, fun key => rfl⟩

theorem holds_publish (hbound : 1 ≤ f.bus.maxQueueSize) (h : Holds f) (bar : LiveBar) (source : String) (publishedAt now : ℤ) :
    Holds (f.step (.publish bar source publishedAt now)) := by
  have hnodup : (f.bus.queuesOf (bar.symbol, bar.timeframe)).Nodup :=
    (h.listed _).nodup_iff.mpr ((nodup_subscriptionsOf f _).filter _)
  have hmem : ∀ q, q ∈ f.bus.queuesOf (bar.symbol, bar.timeframe) ↔
      f.live q = true ∧ f.subscriptions[q]? = some (bar.symbol, bar.timeframe) := by
    intro q
    rw [(h.listed _).mem_iff, List.mem_filter, mem_subscriptionsOf]
    exact and_comm
  unfold step publishCandle publishedTo
  dsimp only
  rw [deliver_eq _ _ _ _ hnodup]
  refine ⟨h.listed, fun q => ?_, fun q hq => ?_, fun key => ?_⟩
  · dsimp only
    by_cases hq : q ∈ f.bus.queuesOf (bar.symbol, bar.timeframe)
    · rw [if_pos hq, if_pos ((hmem q).mp hq)]
      exact (h.kept q).offer hbound _
    · rw [if_neg hq, if_neg fun hlive => hq ((hmem q).mpr hlive), List.append_nil]
      exact h.kept q
  · have hunused := h.unused q hq
    have hnone : q ∉ f.bus.queuesOf (bar.symbol, bar.timeframe) := by
      intro hin
      have hlive := ((hmem q).mp hin).1
      rw [hunused.1] at hlive
      nomatch hlive
    dsimp only
    rw [if_neg hnone, if_neg fun hlive => hnone ((hmem q).mpr hlive), List.append_nil]
    exact hunused
  · by_cases hkey : key = (bar.symbol, bar.timeframe)
    · subst hkey
      have hskipped : ∀ q ∈ f.subscriptionsOf (bar.symbol, bar.timeframe),
          skippedBy (f.step (.publish bar source publishedAt now)) q =
            f.skippedBy q + if f.live q && full f.bus.maxQueueSize (f.queues q) then 1 else 0 := by
        intro q hq
        rw [mem_subscriptionsOf] at hq
        unfold skippedBy step publishCandle publishedTo
        dsimp only
        rw [deliver_eq _ _ _ _ hnodup]
        dsimp only
        by_cases hlive : f.live q = true
        · rw [if_pos ⟨hlive, hq⟩, if_pos ((hmem q).mpr ⟨hlive, hq⟩), hlive, Bool.true_and]
          exact skipped_offer hbound (h.kept q) _
        · rw [if_neg fun hboth => hlive hboth.1, if_neg fun hin => hlive ((hmem q).mp hin).1, Bool.not_eq_true _ |>.mp hlive,
            List.append_nil]
          rfl
      have hcount : (f.bus.queuesOf (bar.symbol, bar.timeframe)).countP (fun q => full f.bus.maxQueueSize (f.queues q)) =
          (f.subscriptionsOf (bar.symbol, bar.timeframe)).countP fun q => f.live q && full f.bus.maxQueueSize (f.queues q) := by
        rw [(h.listed _).countP_eq, List.countP_filter]
        exact List.countP_congr fun q _ => by rw [Bool.and_comm]
      have hsum := sum_map_add_countP (f.subscriptionsOf (bar.symbol, bar.timeframe)) f.skippedBy
        fun q => f.live q && full f.bus.maxQueueSize (f.queues q)
      rw [← List.map_congr_left hskipped, ← h.accounted, ← hcount] at hsum
      rw [stateFor_setState_self]
      unfold step publishCandle publishedTo at hsum
      dsimp only at hsum
      rw [deliver_eq _ _ _ _ hnodup] at hsum
      exact hsum.symm
    · rw [stateFor_setState_ne _ _ hkey, h.accounted key]
      refine congrArg List.sum (List.map_congr_left fun q hq => ?_)
      have hother : f.subscriptions[q]? ≠ some (bar.symbol, bar.timeframe) := by
        intro hsame
        rw [mem_subscriptionsOf.mp hq] at hsame
        exact hkey (Option.some.inj hsame)
      unfold skippedBy
      dsimp only
      rw [if_neg fun hboth => hother hboth.2, if_neg fun hin => hother ((hmem q).mp hin).2, List.append_nil]

theorem holds_setError (h : Holds f) (key : FeedKey) (error : String) (now : ℤ) : Holds (f.setError key error now) := by
  refine ⟨h.listed, h.kept, h.unused, fun key' => ?_⟩
  have hdropped : ((f.setError key error now).bus.stateFor key').droppedCount = (f.bus.stateFor key').droppedCount := by
    refine droppedCount_setState ?_ key'
    rfl
  exact hdropped.trans (h.accounted key')

/-- A new subscription is the last one of its key. -/
theorem subscriptionsOf_subscribe (f : LiveFeed) (key key' : FeedKey) :
    (f.subscribe key).subscriptionsOf key' = f.subscriptionsOf key' ++ if key' = key then [f.subscriptions.length] else [] := by
  unfold subscriptionsOf LiveFeed.subscribe
  dsimp only
  rw [List.length_append, List.length_singleton, List.range_succ, List.filter_append]
  congr 1
  · refine List.filter_congr fun q hq => ?_
    rw [List.getElem?_append_left (List.mem_range.mp hq)]
  · simp [List.filter_cons, eq_comm]

theorem holds_subscribe (h : Holds f) (key : FeedKey) : Holds (f.subscribe key) := by
  obtain ⟨hlive, hpublished, hconsumed, hqueue⟩ := h.unused _ (Nat.le_refl f.subscriptions.length)
  have hfilter : ∀ key', (f.subscriptionsOf key').filter (f.subscribe key).live = (f.subscriptionsOf key').filter f.live := by
    intro key'
    refine List.filter_congr fun q hq => ?_
    have hlt := (List.getElem?_eq_some_iff.mp (mem_subscriptionsOf.mp hq)).1
    exact Function.update_of_ne (Nat.ne_of_lt hlt) _ _
  refine ⟨fun key' => ?_, h.kept, fun q hq => ?_, fun key' => ?_⟩
  · rw [subscriptionsOf_subscribe, List.filter_append, hfilter]
    by_cases hkey : key' = key
    · subst hkey
      have hqueues : (f.subscribe key').bus.queuesOf key' = f.bus.queuesOf key' ++ [f.subscriptions.length] := by
        simp [LiveFeed.subscribe, LiveFeedBus.queuesOf, LiveFeedBus.setState]
      have hnew : (f.subscribe key').live f.subscriptions.length = true := Function.update_self ..
      rw [hqueues, if_pos rfl, List.filter_cons_of_pos hnew, List.filter_nil]
      exact (h.listed key').append_right _
    · have hqueues : (f.subscribe key).bus.queuesOf key' = f.bus.queuesOf key' := by
        simp [LiveFeed.subscribe, LiveFeedBus.queuesOf, LiveFeedBus.setState, hkey]
      rw [hqueues, if_neg hkey, List.filter_nil, List.append_nil]
      exact h.listed key'
  · have hlength : (f.subscribe key).subscriptions.length = f.subscriptions.length + 1 := by
      simp [LiveFeed.subscribe]
    rw [hlength] at hq
    have hne : (f.subscribe key).live q = f.live q := Function.update_of_ne (by omega) _ _
    rw [hne]
    exact h.unused q (by omega)
  · have hdropped : ((f.subscribe key).bus.stateFor key').droppedCount = (f.bus.stateFor key').droppedCount := by
      refine droppedCount_setState ?_ key'
      rfl
    have hskipped : (f.subscribe key).skippedBy f.subscriptions.length = 0 := by
      unfold skippedBy LiveFeed.subscribe
      simp [hpublished, skipped]
    rw [hdropped, h.accounted key', subscriptionsOf_subscribe, List.map_append, List.sum_append]
    split
    · rw [List.map_singleton, hskipped]
      rfl
    · rfl

theorem getD_discard (subscribers : Option (List ℕ)) (queue : ℕ) :
    (LiveFeed.discard subscribers queue).getD [] = (subscribers.getD []).filter fun q => decide (q ≠ queue) := by
  cases subscribers with
  | none => rfl
  | some queues =>
    unfold LiveFeed.discard
    dsimp only
    split
    · rename_i hnil
      exact hnil.symm
    · rfl

theorem holds_unsubscribe (h : Holds f) (queue : ℕ) : Holds (f.unsubscribe queue) := by
  unfold LiveFeed.unsubscribe
  split
  · exact h
  · rename_i key hkey
    refine ⟨fun key' => ?_, h.kept, fun q hq => ?_, fun key' => ?_⟩
    · have hkept := (h.listed key').filter fun q => decide (q ≠ queue)
      rw [List.filter_filter] at hkept
      by_cases hkey' : key' = key
      · subst hkey'
        have hqueues : LiveFeedBus.queuesOf
            { f.bus with subscribers := Function.update f.bus.subscribers key' (LiveFeed.discard (f.bus.subscribers key') queue) } key' =
            (f.bus.queuesOf key').filter fun q => decide (q ≠ queue) := by
          unfold LiveFeedBus.queuesOf
          dsimp only
          rw [Function.update_self, getD_discard]
        rw [queuesOf_setState, hqueues]
        refine hkept.trans (List.Perm.of_eq (List.filter_congr fun q _ => ?_))
        by_cases hq : q = queue
        · simp [hq]
        · simp [hq]
      · have hqueues : LiveFeedBus.queuesOf
            { f.bus with subscribers := Function.update f.bus.subscribers key (LiveFeed.discard (f.bus.subscribers key) queue) } key' =
            f.bus.queuesOf key' := by
          unfold LiveFeedBus.queuesOf
          dsimp only
          rw [Function.update_of_ne hkey']
        rw [queuesOf_setState, hqueues]
        refine (h.listed key').trans (List.Perm.of_eq (List.filter_congr fun q hq => ?_))
        have hne : q ≠ queue := by
          rintro rfl
          rw [mem_subscriptionsOf.mp hq] at hkey
          exact hkey' (Option.some.inj hkey)
        exact (Function.update_of_ne hne _ _).symm
    · obtain ⟨hlive, hrest⟩ := h.unused q hq
      refine ⟨?_, hrest⟩
      by_cases hqueue : q = queue
      · subst hqueue
        exact Function.update_self ..
      · exact (Function.update_of_ne hqueue _ _).trans hlive
    · refine Eq.trans ?_ (h.accounted key')
      refine droppedCount_setState ?_ key'
      rfl

theorem holds_get (h : Holds f) (queue : ℕ) : Holds (f.get queue) := by
  unfold LiveFeed.get
  split
  · exact h
  · rename_i payload rest hqueue
    have hskipped : ∀ q, Mailbox.skipped (f.published q) (Function.update f.consumed queue (f.consumed queue ++ [payload]) q)
        (Function.update f.queues queue rest q) = f.skippedBy q := by
      intro q
      by_cases hq : q = queue
      · subst hq
        rw [Function.update_self, Function.update_self, skipped_take, ← hqueue]
        rfl
      · rw [Function.update_of_ne hq, Function.update_of_ne hq]
        rfl
    refine ⟨h.listed, fun q => ?_, fun q hunopened => ?_, fun key => ?_⟩
    · dsimp only
      by_cases hq : q = queue
      · subst hq
        rw [Function.update_self, Function.update_self]
        exact (hqueue ▸ h.kept q).take
      · rw [Function.update_of_ne hq, Function.update_of_ne hq]
        exact h.kept q
    · have hq : q ≠ queue := by
        rintro rfl
        rw [(h.unused q hunopened).2.2.2] at hqueue
        nomatch hqueue
      dsimp only
      rw [Function.update_of_ne hq, Function.update_of_ne hq]
      exact h.unused q hunopened
    · exact (h.accounted key).trans (congrArg List.sum (List.map_congr_left fun q _ => (hskipped q).symm))

/-- No step changes the size of the queues. -/
theorem maxQueueSize_step (f : LiveFeed) (e : Event) : (f.step e).bus.maxQueueSize = f.bus.maxQueueSize := by
  cases e with
  | publish bar source publishedAt now => rfl
  | setError key error now => rfl
  | subscribe key => rfl
  | unsubscribe queue =>
    unfold LiveFeed.step LiveFeed.unsubscribe
    dsimp only
    split <;> rfl
  | get queue =>
    unfold LiveFeed.step LiveFeed.get
    dsimp only
    split <;> rfl

theorem holds_step (hbound : 1 ≤ f.bus.maxQueueSize) (h : Holds f) (e : Event) : Holds (f.step e) := by
  cases e with
  | publish bar source publishedAt now => exact holds_publish hbound h bar source publishedAt now
  | setError key error now => exact holds_setError h key error now
  | subscribe key => exact holds_subscribe h key
  | unsubscribe queue => exact holds_unsubscribe h queue
  | get queue => exact holds_get h queue

theorem maxQueueSize_run (f : LiveFeed) (events : List Event) : (f.run events).bus.maxQueueSize = f.bus.maxQueueSize := by
  induction events generalizing f with
  | nil => rfl
  | cons e events ih => exact (ih (f.step e)).trans (maxQueueSize_step f e)

theorem holds_run (hbound : 1 ≤ f.bus.maxQueueSize) (h : Holds f) (events : List Event) : Holds (f.run events) := by
  induction events generalizing f with
  | nil => exact h
  | cons e events ih =>
    refine ih ?_ (holds_step hbound h e)
    rw [maxQueueSize_step]
    exact hbound

end LiveFeedAux

namespace LiveFeed

open LiveFeedAux

/-- In every run of the bus the subscriptions are delivered, and what they skipped is counted. -/
theorem run_delivers (maxQueueSize : ℕ) (hsize : 1 ≤ maxQueueSize) (events : List Event) :
    Delivers maxQueueSize ((init maxQueueSize).run events) := by
  have hholds := holds_run hsize (holds_init maxQueueSize) events
  have hkept := hholds.kept
  rw [maxQueueSize_run] at hkept
  exact ⟨fun q _ => hkept q, hholds.accounted⟩

/-- Four candles for a queue of two, of which the consumer takes one. -/
def sampleFeed : List Event :=
  let bar dump := .publish { symbol := "BTC/USDT", timeframe := "1m", dump } "binance_public_ws" 0 0
  [.subscribe ("BTC/USDT", "1m"), bar "1", .get 0, bar "2", bar "3", bar "4"]

/-- The first candle is consumed, the second one is counted as dropped, and the others are left. -/
theorem run_delivers_two : Delivers 2 ((init 2).run sampleFeed) ∧
    (((init 2).run sampleFeed).consumed 0).map LivePayload.payload = ["1"] ∧
    (((init 2).run sampleFeed).queues 0).map LivePayload.payload = ["3", "4"] ∧
    (((init 2).run sampleFeed).bus.stateFor ("BTC/USDT", "1m")).droppedCount = 1 :=
  ⟨run_delivers 2 (by decide) _, by decide, by decide, by decide⟩

end LiveFeed

end TradingPlatform
