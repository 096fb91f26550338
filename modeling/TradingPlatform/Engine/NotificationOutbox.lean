import TradingPlatform.Lib.Lists
import TradingPlatform.Lib.Sessions
import TradingPlatform.Lib.Table

/-!
# The notification outbox

`services/notifications.py` and the `NotificationRepository`: risk events become notifications, and dispatchers deliver the due
ones through the adapters of their channels. A dispatcher reads a row, loads it again after the adapters and then writes the
columns that differ, each in a statement of its own, and several dispatchers run at once. Instants are microseconds.
-/

namespace TradingPlatform

/-! ## Rows -/

/-- `NotificationDispatchResult`. -/
structure NotificationDispatchResult where
  channel : String
  success : Bool
  externalRef : Option String := none
  errorMessage : Option String := none
  failureKind : Option String := none
  deriving DecidableEq, Repr

/-- What an attempt records of a channel. -/
structure ChannelResult where
  channel : String
  status : String
  externalRef : Option String
  failureKind : Option String
  errorMessage : Option String
  deriving DecidableEq, Repr

/-- An entry of `attempt_history`. The instant stands for its text. -/
structure AttemptEntry where
  attempt : ℕ
  attemptedAt : ℤ
  channels : List ChannelResult
  deriving DecidableEq, Repr

/-- `NotificationOutboxItem`, a row of the outbox. -/
structure NotificationOutboxItem where
  notificationId : String
  eventType : String
  severity : String
  channelGroup : String := "ops"
  deliveryChannels : List String := ["telegram", "webhook"]
  subject : String
  body : String
  sourceRef : Option String := none
  deliveryStatus : String := "pending_adapter"
  deliveryAttempts : ℕ := 0
  nextAttemptAt : Option ℤ := none
  lastAttemptAt : Option ℤ := none
  attemptHistory : List AttemptEntry := []
  lastError : Option String := none
  deliveredAt : Option ℤ := none
  createdAt : Option ℤ := none
  updatedAt : Option ℤ := none
  deriving DecidableEq, Repr

/-- `RiskEvent`, in the fields a notification takes. -/
structure RiskEvent where
  riskEventId : Option String
  severity : String
  eventType : String
  description : String
  occurredAt : Option ℤ
  deriving DecidableEq, Repr

/-- `item`, where a text that is empty counts as missing. -/
def orText (text : Option String) (default : String) : String := (text.filter fun s => s != "").getD default

/-- `risk_event_notifications`, with the clock and the upper case of a text. -/
def riskEventNotifications (upper : String → String) (now : ℤ) (events : List RiskEvent) : List NotificationOutboxItem :=
  events.foldl (fun items event =>
    if event.severity = "high" ∨ event.severity = "critical" then
      let eventId := orText event.riskEventId ("risk-" ++ toString (items.length + 1))
      items ++
        [{ notificationId := "risk:" ++ eventId
           eventType := "risk_event"
           severity := event.severity
           channelGroup := "ops"
           deliveryChannels := ["telegram", "webhook"]
           subject := upper event.severity ++ " risk event: " ++ event.eventType
           body := event.description
           sourceRef := some eventId
           createdAt := some (event.occurredAt.getD now) }]
    else items) []

/-! ## An attempt -/

/-- What the adapter of a channel answers at a place of the list of channels, if the channel has one. -/
abbrev AdapterAnswers := ℕ → String → Option (Except String NotificationDispatchResult)

/-- The result for a channel: an adapter that is missing fails for good, one that raises fails for now. -/
def channelOutcome (channel : String) : Option (Except String NotificationDispatchResult) → NotificationDispatchResult
  | none =>
    { channel, success := false, errorMessage := channel ++ " adapter not configured", failureKind := "permanent" }
  | some (.error message) => { channel, success := false, errorMessage := message, failureKind := "transient" }
  | some (.ok result) => result

/-- The accumulators of the loop over the channels. -/
structure AttemptLoop where
  success : Bool := true
  transientFailure : Bool := false
  errors : List String := []
  channelResults : List ChannelResult := []
  deriving DecidableEq, Repr

/-- The body of the loop. -/
def AttemptLoop.next (l : AttemptLoop) (result : NotificationDispatchResult) : AttemptLoop where
  success := l.success && result.success
  transientFailure := l.transientFailure || (!result.success && decide (result.failureKind = some "transient"))
  errors := l.errors ++ ((result.errorMessage.filter fun s => s != "").map fun message => result.channel ++ ": " ++ message).toList
  channelResults := l.channelResults ++
    [{ channel := result.channel, status := if result.success then "sent" else "failed", externalRef := result.externalRef,
       failureKind := result.failureKind, errorMessage := result.errorMessage }]

/-- The loop over the channels of an item. -/
def NotificationOutboxItem.attempt (item : NotificationOutboxItem) (answers : AdapterAnswers) : AttemptLoop :=
  item.deliveryChannels.zipIdx.foldl (fun l channel => l.next (channelOutcome channel.1 (answers channel.2 channel.1))) {}

/-! ## The dispatcher -/

/-- The settings of a `NotificationDispatcherService`. -/
structure NotificationDispatcherService where
  maxAttempts : ℤ
  baseDelaySeconds : ℤ
  deriving DecidableEq, Repr

/-- The constructor: a setting that is zero counts as missing. -/
def NotificationDispatcherService.construct (maxAttempts baseDelaySeconds : Option ℤ) : NotificationDispatcherService where
  maxAttempts := (maxAttempts.filter fun n => n != 0).getD 3
  baseDelaySeconds := (baseDelaySeconds.filter fun n => n != 0).getD 300

/-- When an attempt is tried again: after a failure that may pass, while attempts are left. The delay doubles with each. -/
def NotificationDispatcherService.retryAt (d : NotificationDispatcherService) (attemptNumber : ℕ) (now : ℤ) (l : AttemptLoop) :
    Option ℤ :=
  if l.transientFailure = true ∧ (attemptNumber : ℤ) < d.maxAttempts then
    some (now + d.baseDelaySeconds * 2 ^ (attemptNumber - 1) * 1000000)
  else none

/-- The entry an attempt adds to the history of the item it was made for. -/
def NotificationOutboxItem.entry (item : NotificationOutboxItem) (now : ℤ) (l : AttemptLoop) : AttemptEntry where
  attempt := item.deliveryAttempts + 1
  attemptedAt := now
  channels := l.channelResults

/-- What `update_notification` assigns to the row it has loaded, with the fields that `dispatch_notification` gives it for the item
it has read. -/
def NotificationDispatcherService.write (d : NotificationDispatcherService) (item : NotificationOutboxItem) (now updatedAt : ℤ)
    (l : AttemptLoop) (row : NotificationOutboxItem) : NotificationOutboxItem :=
  if l.success then
    { row with
      deliveryStatus := "sent"
      deliveryAttempts := item.deliveryAttempts + 1
      nextAttemptAt := none
      lastAttemptAt := some now
      deliveredAt := some now
      lastError := none
      attemptHistory := item.attemptHistory ++ [item.entry now l]
      updatedAt := some updatedAt }
  else
    { row with
      deliveryStatus := if (d.retryAt (item.deliveryAttempts + 1) now l).isSome then "pending_retry" else "failed"
      deliveryAttempts := item.deliveryAttempts + 1
      nextAttemptAt := d.retryAt (item.deliveryAttempts + 1) now l
      lastAttemptAt := some now
      lastError := if l.errors = [] then none else some ("; ".intercalate l.errors)
      attemptHistory := item.attemptHistory ++ [item.entry now l]
      updatedAt := some updatedAt }

/-- The flush of `update_notification`: a column is written where it differs from the one that was loaded. -/
def NotificationOutboxItem.flush (loaded assigned stored : NotificationOutboxItem) : NotificationOutboxItem :=
  { stored with
    deliveryStatus := Table.changedColumn loaded.deliveryStatus assigned.deliveryStatus stored.deliveryStatus
    deliveryAttempts := Table.changedColumn loaded.deliveryAttempts assigned.deliveryAttempts stored.deliveryAttempts
    nextAttemptAt := Table.changedColumn loaded.nextAttemptAt assigned.nextAttemptAt stored.nextAttemptAt
    lastAttemptAt := Table.changedColumn loaded.lastAttemptAt assigned.lastAttemptAt stored.lastAttemptAt
    deliveredAt := Table.changedColumn loaded.deliveredAt assigned.deliveredAt stored.deliveredAt
    lastError := Table.changedColumn loaded.lastError assigned.lastError stored.lastError
    attemptHistory := Table.changedColumn loaded.attemptHistory assigned.attemptHistory stored.attemptHistory
    updatedAt := Table.changedColumn loaded.updatedAt assigned.updatedAt stored.updatedAt }

/-! ## Dispatchers at once -/

/-- An attempt whose result has been written. The last three fields are about the order of the statements: whether the due
dispatcher made it, and whether another attempt of the notification was written since the item was read, or since the call
chose the notification. -/
structure MadeAttempt where
  notificationId : String
  entry : AttemptEntry
  success : Bool
  retryAt : Option ℤ
  due : Bool
  overlapped : Bool
  stale : Bool
  deriving DecidableEq, Repr

/-- The rows, and the attempts that were made. -/
structure Outbox where
  rows : List NotificationOutboxItem := []
  made : List MadeAttempt := []
  deriving DecidableEq, Repr

def Outbox.get (o : Outbox) (notificationId : String) : Option NotificationOutboxItem :=
  Table.get NotificationOutboxItem.notificationId o.rows notificationId

/-- The attempts of a notification, in the order they were written. -/
def Outbox.madeFor (o : Outbox) (notificationId : String) : List MadeAttempt :=
  o.made.filter fun a => decide (a.notificationId = notificationId)

/-- `create_notification`: a row that is there stays. The database sets the instants an item does not have. -/
def Outbox.createNotification (o : Outbox) (item : NotificationOutboxItem) (now : ℤ) : Outbox :=
  if (o.get item.notificationId).isSome then o
  else { o with
    rows := o.rows ++ [{ item with createdAt := some (item.createdAt.getD now), updatedAt := some (item.updatedAt.getD now) }] }

/-- `enqueue_risk_event_notification`. -/
def Outbox.enqueueRiskEventNotification (o : Outbox) (upper : String → String) (now : ℤ) (event : RiskEvent) : Outbox :=
  match riskEventNotifications upper now [event] with
  | [] => o
  | item :: _ => o.createNotification item now

/-- `list_notifications(only_due=True, limit=limit)`. Rows of one instant are in the order they were added. -/
def Outbox.listDue (o : Outbox) (now : ℤ) (limit : ℕ) : List NotificationOutboxItem :=
  (sortOn (fun r => r.createdAt.getD 0) (o.rows.filter fun r =>
    (r.deliveryStatus == "pending_adapter" || r.deliveryStatus == "pending_retry") &&
      r.nextAttemptAt.all fun t => decide (t ≤ now))).take limit

/-- Where a call stands. `chosen` is how many attempts of the notification had been written when the call chose it, and `seen`
when it read the row. -/
inductive OutboxCall where
  | create (item : NotificationOutboxItem)
  /-- `dispatch_notification`, before its read. -/
  | dispatch (notificationId : String)
  /-- `dispatch_due_notifications`, before its read. -/
  | dispatchDue (limit : ℕ)
  /-- The notifications that are left to dispatch. -/
  | pending (due : Bool) (queue : List (String × ℕ))
  /-- The adapters are called for an item, and its row is loaded. -/
  | sending (item : NotificationOutboxItem) (now : ℤ) (due : Bool) (seen chosen : ℕ) (queue : List (String × ℕ))
  /-- The result is written to the row that was loaded. -/
  | updating (item loaded : NotificationOutboxItem) (now : ℤ) (due : Bool) (seen chosen : ℕ) (l : AttemptLoop)
    (queue : List (String × ℕ))

/-- What a statement of a call is given: the clock and the answers of the adapters. -/
structure OutboxInput where
  now : ℤ
  answers : AdapterAnswers

/-- `dispatch_notification` up to the adapters, for the first of the notifications that are left. -/
def Outbox.choose (o : Outbox) (now : ℤ) (due : Bool) (notificationId : String) (chosen : ℕ) (queue : List (String × ℕ)) :
    OutboxCall :=
  match o.get notificationId with
  | none => .pending due queue
  | some item =>
    if item.deliveryStatus = "sent" then .pending due queue
    else if ∃ t ∈ item.nextAttemptAt, now < t then .pending due queue
    else .sending item now due (o.madeFor notificationId).length chosen queue

/-- `update_notification` from its load on: the columns that differ are written to the row as it is now. -/
def Outbox.settle (o : Outbox) (d : NotificationDispatcherService) (item loaded : NotificationOutboxItem) (now updatedAt : ℤ)
    (due : Bool) (seen chosen : ℕ) (l : AttemptLoop) : Outbox where
  rows := Table.modify NotificationOutboxItem.notificationId o.rows item.notificationId
    (loaded.flush (d.write item now updatedAt l loaded))
  made := o.made ++
    [{ notificationId := item.notificationId
       entry := item.entry now l
       success := l.success
       retryAt := if l.success then none else d.retryAt (item.deliveryAttempts + 1) now l
       due
       overlapped := decide ((o.madeFor item.notificationId).length ≠ seen)
       stale := decide ((o.madeFor item.notificationId).length ≠ chosen) }]

/-- The next statement of a call. -/
def NotificationDispatcherService.advance (d : NotificationDispatcherService) (input : OutboxInput) :
    OutboxCall → Outbox → Option OutboxCall × Outbox
  | .create item, o => (none, o.createNotification item input.now)
  | .dispatch notificationId, o =>
    (some (o.choose input.now false notificationId (o.madeFor notificationId).length []), o)
  | .dispatchDue limit, o =>
    (some (.pending true ((o.listDue input.now limit).map fun r => (r.notificationId, (o.madeFor r.notificationId).length))), o)
  | .pending _ [], o => (none, o)
  | .pending due ((notificationId, chosen) :: queue), o => (some (o.choose input.now due notificationId chosen queue), o)
  | .sending item now due seen chosen queue, o =>
    (some (match o.get item.notificationId with
      | none => .pending due queue
      | some loaded => .updating item loaded now due seen chosen (item.attempt input.answers) queue), o)
  | .updating item loaded now due seen chosen l queue, o =>
    (some (.pending due queue), o.settle d item loaded now input.now due seen chosen l)

/-- A notification as the services add it, with nothing delivered. -/
def NotificationOutboxItem.Fresh (item : NotificationOutboxItem) : Prop :=
  item.deliveryStatus = "pending_adapter" ∧ item.deliveryAttempts = 0 ∧ item.nextAttemptAt = none ∧
    item.lastAttemptAt = none ∧ item.attemptHistory = [] ∧ item.deliveredAt = none

/-- The calls that begin: a fresh notification is added, or a dispatcher runs. -/
@[grind =] def OutboxCall.Starts : OutboxCall → Prop
  | .create item => item.Fresh
  | .dispatch _ => True
  | .dispatchDue _ => True
  | _ => False

/-- A world of the outbox. -/
abbrev OutboxWorld := Sessions.World Outbox OutboxCall

/-- The outbox after statements in an order, from an empty one. -/
def NotificationDispatcherService.runOutbox (d : NotificationDispatcherService) (ops : List (Sessions.Op OutboxCall OutboxInput)) :
    OutboxWorld :=
  Sessions.World.run d.advance { stored := {} } ops

end TradingPlatform
