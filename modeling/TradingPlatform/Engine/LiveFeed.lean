import TradingPlatform.Lib.Mailbox

/-!
# The live feed bus

`services/data/live_feed_bus.py` fans the candles of a key out to the queues that are subscribed to it. A queue is a number here, and
an operation under the lock is one step; what the consumer of a queue has got, and what was published to the key of a queue while it
was subscribed, are logs of the environment.
-/

namespace TradingPlatform

/-- `FeedKey`: a symbol and a timeframe. -/
abbrev FeedKey := String × String

/-- A candle: its key, and what `model_dump` writes of it. -/
structure LiveBar where
  symbol : String
  timeframe : String
  dump : String
  deriving DecidableEq, Repr

/-- The payload of a live candle. -/
structure LivePayload where
  event : String
  source : String
  feedStatus : String
  symbol : String
  timeframe : String
  publishedAt : ℤ
  payload : String
  deriving DecidableEq, Repr

/-- `LiveFeedState`. -/
structure LiveFeedState where
  symbol : String
  timeframe : String
  status : String := "idle"
  source : String := "binance_public_ws"
  lastEventAt : Option ℤ := none
  lastPayload : Option LivePayload := none
  subscribers : ℕ := 0
  publishedCount : ℕ := 0
  droppedCount : ℕ := 0
  lastError : Option String := none

/-- `LiveFeedBus`: the states and the subscribed queues of the keys. -/
structure LiveFeedBus where
  maxQueueSize : ℕ
  states : FeedKey → Option LiveFeedState
  subscribers : FeedKey → Option (List ℕ)

/-- The bus with its queues and its consumers. -/
structure LiveFeed where
  bus : LiveFeedBus
  queues : ℕ → List LivePayload
  /-- The key of each subscription, by the number of its queue. -/
  subscriptions : List FeedKey
  /-- The subscriptions that were not given up. -/
  live : ℕ → Bool
  /-- What the consumer of a queue has got. -/
  consumed : ℕ → List LivePayload
  /-- What was published to the key of a queue while it was subscribed. -/
  published : ℕ → List LivePayload

namespace LiveFeedBus

/-- `_state_for`. -/
def stateFor (bus : LiveFeedBus) (key : FeedKey) : LiveFeedState :=
  (bus.states key).getD { symbol := key.1, timeframe := key.2 }

def setState (bus : LiveFeedBus) (key : FeedKey) (state : LiveFeedState) : LiveFeedBus :=
  { bus with states := Function.update bus.states key (some state) }

/-- `self._subscribers.get(key, set())`. -/
def queuesOf (bus : LiveFeedBus) (key : FeedKey) : List ℕ := (bus.subscribers key).getD []

end LiveFeedBus

namespace LiveFeed

/-- `LiveFeedBus(max_queue_size=…)`. -/
def init (maxQueueSize : ℕ) : LiveFeed :=
  { bus := { maxQueueSize, states := fun _ => none, subscribers := fun _ => none }, queues := fun _ => [], subscriptions := [],
    live := fun _ => false, consumed := fun _ => [], published := fun _ => [] }

/-- The loop of `publish_candle` over the subscribed queues, with the number of payloads that are dropped. -/
def deliver (bound : ℕ) (payload : LivePayload) (queues : ℕ → List LivePayload) (dropped : ℕ) :
    List ℕ → (ℕ → List LivePayload) × ℕ
  | [] => (queues, dropped)
  | queue :: rest =>
    deliver bound payload (Function.update queues queue (Mailbox.offer bound (queues queue) payload))
      (if Mailbox.full bound (queues queue) then dropped + 1 else dropped) rest

/-- The payload of `publish_candle`. -/
def payloadOf (bar : LiveBar) (source : String) (publishedAt : ℤ) : LivePayload :=
  { event := "live_candle", source, feedStatus := "live", symbol := bar.symbol, timeframe := bar.timeframe, publishedAt,
    payload := bar.dump }

/-- `publish_candle`. -/
def publishCandle (f : LiveFeed) (bar : LiveBar) (source : String) (publishedAt now : ℤ) : LiveFeed :=
  let payload := payloadOf bar source publishedAt
  let key := (bar.symbol, bar.timeframe)
  let state := f.bus.stateFor key
  let subscribers := f.bus.queuesOf key
  let delivered := deliver f.bus.maxQueueSize payload f.queues state.droppedCount subscribers
  { f with
    bus := f.bus.setState key
      { state with
        status := "live", source, lastEventAt := some now, lastPayload := some payload, lastError := none,
        publishedCount := state.publishedCount + 1, subscribers := subscribers.length, droppedCount := delivered.2 },
    queues := delivered.1 }

/-- `set_error`. -/
def setError (f : LiveFeed) (key : FeedKey) (error : String) (now : ℤ) : LiveFeed :=
  { f with
    bus := f.bus.setState key
      { f.bus.stateFor key with status := "reconnecting", lastError := some error, lastEventAt := some now } }

/-- `subscribe`: the subscription of a new queue. -/
def subscribe (f : LiveFeed) (key : FeedKey) : LiveFeed :=
  let queue := f.subscriptions.length
  let subscribed := f.bus.queuesOf key ++ [queue]
  let bus := { f.bus with subscribers := Function.update f.bus.subscribers key (some subscribed) }
  { f with
    bus := bus.setState key { bus.stateFor key with subscribers := subscribed.length },
    subscriptions := f.subscriptions ++ [key],
    live := Function.update f.live queue true }

/-- The subscribers of a key without a queue; a key that has no subscriber left is removed. -/
def discard (subscribers : Option (List ℕ)) (queue : ℕ) : Option (List ℕ) :=
  match subscribers with
  | none => none
  | some queues =>
    let rest := queues.filter fun q => decide (q ≠ queue)
    if rest = [] then none else some rest

/-- `unsubscribe`, of a subscription that was returned. -/
def unsubscribe (f : LiveFeed) (queue : ℕ) : LiveFeed :=
  match f.subscriptions[queue]? with
  | none => f
  | some key =>
    let bus := { f.bus with subscribers := Function.update f.bus.subscribers key (discard (f.bus.subscribers key) queue) }
    { f with
      bus := bus.setState key { bus.stateFor key with subscribers := (bus.queuesOf key).length },
      live := Function.update f.live queue false }

/-- `queue.get()`; a consumer of an empty queue waits. -/
def get (f : LiveFeed) (queue : ℕ) : LiveFeed :=
  match f.queues queue with
  | [] => f
  | payload :: rest =>
    { f with
      queues := Function.update f.queues queue rest,
      consumed := Function.update f.consumed queue (f.consumed queue ++ [payload]) }

/-- What can happen to the bus. -/
inductive Event where
  | publish (bar : LiveBar) (source : String) (publishedAt now : ℤ)
  | setError (key : FeedKey) (error : String) (now : ℤ)
  | subscribe (key : FeedKey)
  | unsubscribe (queue : ℕ)
  | get (queue : ℕ)

/-- What an event publishes to a queue: the payload of a candle of the key that it is subscribed to. -/
def publishedTo (f : LiveFeed) (q : ℕ) : Event → List LivePayload
  | .publish bar source publishedAt _ =>
    if f.live q = true ∧ f.subscriptions[q]? = some (bar.symbol, bar.timeframe) then [payloadOf bar source publishedAt] else []
  | _ => []

def step (f : LiveFeed) : Event → LiveFeed
  | .publish bar source publishedAt now =>
    { f.publishCandle bar source publishedAt now with
      published := fun q => f.published q ++ f.publishedTo q (.publish bar source publishedAt now) }
  | .setError key error now => f.setError key error now
  | .subscribe key => f.subscribe key
  | .unsubscribe queue => f.unsubscribe queue
  | .get queue => f.get queue

def run (f : LiveFeed) (events : List Event) : LiveFeed := events.foldl step f

/-- The subscriptions of a key, those that were given up as well. -/
def subscriptionsOf (f : LiveFeed) (key : FeedKey) : List ℕ :=
  (List.range f.subscriptions.length).filter fun q => decide (f.subscriptions[q]? = some key)

end LiveFeed

end TradingPlatform
