import Mathlib.Data.List.Chain
import TradingPlatform.Engine.NotificationOutbox

/-!
# What the outbox says of its deliveries

Any number of dispatchers read and write the rows, their statements in any order. The history of a row is the whole history exactly
when no attempt was written between the read and the write of another one, and then the row agrees with itself: its attempts are
numbered, and it is sent exactly when its last attempt reached every channel. Where each call finds a notification as it chose it,
a delivered notification is not sent again, and the retries keep their number and their delays.
-/

namespace TradingPlatform

/-! ## Statements -/

/-- An entry all of whose channels were reached. -/
def AttemptEntry.Delivered (e : AttemptEntry) : Prop := ∀ c ∈ e.channels, c.status = "sent"

/-- A row that agrees with itself. -/
structure NotificationOutboxItem.Coherent (r : NotificationOutboxItem) : Prop where
  attempts : r.deliveryAttempts = r.attemptHistory.length
  numbered : r.attemptHistory.map AttemptEntry.attempt = List.range' 1 r.attemptHistory.length
  status : r.deliveryStatus = "sent" ↔ ∃ e ∈ r.attemptHistory.getLast?, e.Delivered
  lastAttemptAt : r.lastAttemptAt = r.attemptHistory.getLast?.map AttemptEntry.attemptedAt

/-- An attempt comes after another one: the first failed, its delay has passed, and a due dispatcher only makes the second if the
first is to be tried again. -/
def MadeAttempt.Precedes (a b : MadeAttempt) : Prop :=
  a.success = false ∧ (∀ t ∈ a.retryAt, t ≤ b.entry.attemptedAt) ∧ (b.due = true → a.retryAt.isSome = true)

/-- The attempts of a notification that every call found as it chose it. -/
structure DeliveredOnce (d : NotificationDispatcherService) (r : NotificationOutboxItem) (made : List MadeAttempt) : Prop where
  history : r.attemptHistory = made.map MadeAttempt.entry
  order : made.IsChain MadeAttempt.Precedes
  sent : r.deliveryStatus = "sent" ↔ ∃ a ∈ made, a.success = true
  deliveredAt : r.deliveredAt = (made.find? MadeAttempt.success).map fun a => a.entry.attemptedAt
  delay : ∀ a ∈ made, ∀ t ∈ a.retryAt, t = a.entry.attemptedAt + d.baseDelaySeconds * 2 ^ (a.entry.attempt - 1) * 1000000
  budget : ∀ a ∈ made, a.due = true → (a.entry.attempt : ℤ) ≤ max 1 d.maxAttempts

namespace NotificationOutboxAux

variable {d : NotificationDispatcherService} {o o' : Outbox} {item loaded r : NotificationOutboxItem}

/-! ## An attempt -/

theorem next_sent (l : AttemptLoop) (result : NotificationDispatchResult)
    (h : l.success = true ↔ ∀ c ∈ l.channelResults, c.status = "sent") :
    (l.next result).success = true ↔ ∀ c ∈ (l.next result).channelResults, c.status = "sent" := by
  simp only [AttemptLoop.next, Bool.and_eq_true, h, List.forall_mem_append, List.forall_mem_singleton]
  cases result.success <;> simp

/-- The attempt succeeds exactly when it reaches every channel. -/
theorem attempt_success (item : NotificationOutboxItem) (answers : AdapterAnswers) (now : ℤ) :
    (item.attempt answers).success = true ↔ (item.entry now (item.attempt answers)).Delivered := by
  unfold NotificationOutboxItem.attempt
  refine List.foldlRecOn _ _ (motive := fun l => l.success = true ↔ (item.entry now l).Delivered) ?_ fun l h result _ => ?_
  · simp [AttemptEntry.Delivered, NotificationOutboxItem.entry]
  · exact next_sent l _ h

/-! ## Rows and attempts under a key -/

theorem get_key (h : o.get k = some r) : r.notificationId = k := (Table.get_some h).2

theorem get_createNotification_other (now : ℤ) {k : String} (hk : item.notificationId ≠ k) :
    (o.createNotification item now).get k = o.get k := by
  unfold Outbox.createNotification
  split
  · rfl
  · simp [Outbox.get, Table.get, List.find?_append, hk]

theorem get_createNotification_self (now : ℤ) (h : o.get item.notificationId = none) :
    (o.createNotification item now).get item.notificationId =
      some { item with createdAt := some (item.createdAt.getD now), updatedAt := some (item.updatedAt.getD now) } := by
  have hnone : o.rows.find? (fun x => decide (x.notificationId = item.notificationId)) = none := h
  unfold Outbox.createNotification
  rw [h]
  simp [Outbox.get, Table.get, List.find?_append, hnone]

@[simp] theorem madeFor_createNotification (item : NotificationOutboxItem) (now : ℤ) (k : String) :
    (o.createNotification item now).madeFor k = o.madeFor k := by
  unfold Outbox.createNotification
  split <;> rfl

variable {now updatedAt : ℤ} {due : Bool} {seen chosen : ℕ} {l : AttemptLoop}

theorem get_settle_self (h : o.get item.notificationId = some r) :
    (o.settle d item loaded now updatedAt due seen chosen l).get item.notificationId =
      some (loaded.flush (d.write item now updatedAt l loaded) r) := by
  have hkey : ∀ x : NotificationOutboxItem,
      (loaded.flush (d.write item now updatedAt l loaded) x).notificationId = x.notificationId := fun _ => rfl
  exact (Table.get_modify_self hkey).trans (congrArg (Option.map _) h)

theorem get_settle_other {k : String} (hk : k ≠ item.notificationId) :
    (o.settle d item loaded now updatedAt due seen chosen l).get k = o.get k :=
  Table.get_modify_other (fun _ => rfl) hk

/-- The attempt that a write adds. -/
def added (d : NotificationDispatcherService) (o : Outbox) (item : NotificationOutboxItem) (now : ℤ) (due : Bool) (seen chosen : ℕ)
    (l : AttemptLoop) : MadeAttempt where
  notificationId := item.notificationId
  entry := item.entry now l
  success := l.success
  retryAt := if l.success then none else d.retryAt (item.deliveryAttempts + 1) now l
  due := due
  overlapped := decide ((o.madeFor item.notificationId).length ≠ seen)
  stale := decide ((o.madeFor item.notificationId).length ≠ chosen)

theorem madeFor_settle_self :
    (o.settle d item loaded now updatedAt due seen chosen l).madeFor item.notificationId =
      o.madeFor item.notificationId ++ [added d o item now due seen chosen l] := by
  simp [Outbox.settle, Outbox.madeFor, List.filter_append, added]

theorem madeFor_settle_other {k : String} (hk : k ≠ item.notificationId) :
    (o.settle d item loaded now updatedAt due seen chosen l).madeFor k = o.madeFor k := by
  have hk' : ¬item.notificationId = k := fun h => hk h.symm
  simp [Outbox.settle, Outbox.madeFor, List.filter_append, hk']

/-! ## What holds of a row and its attempts -/

/-- The status after an attempt, or before the first one. -/
@[grind =] def statusAfter : Option MadeAttempt → String
  | none => "pending_adapter"
  | some a => if a.success then "sent" else if a.retryAt.isSome then "pending_retry" else "failed"

/-- A row the due dispatcher would list, were its time come. -/
def Pending (r : NotificationOutboxItem) : Prop := r.deliveryStatus = "pending_adapter" ∨ r.deliveryStatus = "pending_retry"

/-- A row after attempts that every call found as it chose them. -/
structure Settled (d : NotificationDispatcherService) (r : NotificationOutboxItem) (made : List MadeAttempt) : Prop where
  order : made.IsChain MadeAttempt.Precedes
  status : r.deliveryStatus = statusAfter made.getLast?
  nextAttemptAt : r.nextAttemptAt = made.getLast?.bind MadeAttempt.retryAt
  sent : r.deliveryStatus = "sent" ↔ ∃ a ∈ made, a.success = true
  deliveredAt : r.deliveredAt = (made.find? MadeAttempt.success).map fun a => a.entry.attemptedAt
  budget : ∀ a ∈ made, a.due = true → (a.entry.attempt : ℤ) ≤ max 1 d.maxAttempts

/-- A row and its attempts. -/
structure Tracked (d : NotificationDispatcherService) (r : NotificationOutboxItem) (made : List MadeAttempt) : Prop where
  coherent : (∀ a ∈ made, a.overlapped = false) → r.Coherent
  retry : ∀ a ∈ made, ∀ t ∈ a.retryAt,
    t = a.entry.attemptedAt + d.baseDelaySeconds * 2 ^ (a.entry.attempt - 1) * 1000000 ∧ (a.entry.attempt : ℤ) < d.maxAttempts
  shorter : r.attemptHistory.length ≤ made.length
  complete : (∀ a ∈ made, a.overlapped = false) → r.attemptHistory = made.map MadeAttempt.entry
  lost : (∃ a ∈ made, a.overlapped = true) → r.attemptHistory.length < made.length
  stale : ∀ a ∈ made, a.stale = false → a.overlapped = false
  settled : (∀ a ∈ made, a.stale = false) → Settled d r made

/-- A row that was just added. -/
theorem tracked_fresh (h : item.Fresh) (createdAt updatedAt : Option ℤ) :
    Tracked d { item with createdAt, updatedAt } [] := by
  obtain ⟨hstatus, hattempts, hnext, hlast, hhistory, hdelivered⟩ := h
  constructor
  · intro _
    constructor
    · simp [hattempts, hhistory]
    · simp [hhistory]
    · simp [hstatus, hhistory]
    · simp [hlast, hhistory]
  · simp
  · simp [hhistory]
  · simp [hhistory]
  · simp
  · simp
  · intro _
    constructor
    · exact List.isChain_nil
    · simp [hstatus, statusAfter]
    · simp [hnext]
    · simp [hstatus]
    · simp [hdelivered]
    · simp

/-- What the writing call knows of the row: the item is the row unless an attempt was written since. -/
structure Sending (r : NotificationOutboxItem) (made : List MadeAttempt) (item : NotificationOutboxItem) (now : ℤ) (due : Bool)
    (seen chosen : ℕ) : Prop where
  known : item.attemptHistory.length ≤ seen
  chosen_le : chosen ≤ seen
  seen_le : seen ≤ made.length
  same : made.length = seen → r = item
  unsent : item.deliveryStatus ≠ "sent"
  passed : ∀ t ∈ item.nextAttemptAt, t ≤ now
  pending : due = true → made.length = chosen → Pending item

/-! ## A write -/

/-- A row that is still as it was loaded ends as it was assigned. -/
theorem flush_self : item.flush (d.write item now updatedAt l item) item = d.write item now updatedAt l item := by
  unfold NotificationOutboxItem.flush NotificationDispatcherService.write
  split <;> simp

theorem write_attemptHistory :
    (d.write item now updatedAt l r).attemptHistory = item.attemptHistory ++ [item.entry now l] := by
  unfold NotificationDispatcherService.write
  split <;> rfl

theorem write_sent : (d.write item now updatedAt l r).deliveryStatus = "sent" ↔ l.success = true := by
  unfold NotificationDispatcherService.write
  by_cases h : l.success = true
  · simp [h]
  · rw [if_neg h]
    dsimp only
    split <;> simp [h]

theorem write_status (o : Outbox) : (d.write item now updatedAt l r).deliveryStatus =
    statusAfter (some (added d o item now due seen chosen l)) := by
  unfold NotificationDispatcherService.write statusAfter added
  by_cases h : l.success = true <;> simp [h]

theorem write_nextAttemptAt (o : Outbox) : (d.write item now updatedAt l r).nextAttemptAt =
    (added d o item now due seen chosen l).retryAt := by
  unfold NotificationDispatcherService.write added
  by_cases h : l.success = true <;> simp [h]

/-- What is assigned agrees with itself, whatever the row was. -/
theorem write_coherent (h : item.Coherent) (hl : l.success = true ↔ (item.entry now l).Delivered) :
    (d.write item now updatedAt l r).Coherent := by
  have hattempts : (d.write item now updatedAt l r).deliveryAttempts = item.deliveryAttempts + 1 := by
    unfold NotificationDispatcherService.write
    split <;> rfl
  have hlast : (d.write item now updatedAt l r).lastAttemptAt = some now := by
    unfold NotificationDispatcherService.write
    split <;> rfl
  constructor
  · rw [hattempts, write_attemptHistory, h.attempts]
    simp
  · rw [write_attemptHistory, List.map_append, h.numbered, List.length_append, List.length_singleton, List.range'_concat]
    simp [NotificationOutboxItem.entry, h.attempts]
    omega
  · rw [write_sent, hl, write_attemptHistory]
    simp
  · rw [hlast, write_attemptHistory]
    simp [NotificationOutboxItem.entry]

theorem retryAt_spec {attemptNumber : ℕ} {t : ℤ} (h : d.retryAt attemptNumber now l = some t) :
    t = now + d.baseDelaySeconds * 2 ^ (attemptNumber - 1) * 1000000 ∧ (attemptNumber : ℤ) < d.maxAttempts := by
  unfold NotificationDispatcherService.retryAt at h
  split at h
  · rename_i hleft
    cases h
    exact ⟨rfl, hleft.2⟩
  · cases h

/-- The last attempt has the number of attempts as its number. -/
theorem attempt_getLast {made : List MadeAttempt} {a : MadeAttempt} (hr : r.Coherent)
    (hhistory : r.attemptHistory = made.map MadeAttempt.entry) (ha : made.getLast? = some a) :
    a.entry.attempt = r.deliveryAttempts := by
  have hlast : (r.attemptHistory.map AttemptEntry.attempt).getLast? = some a.entry.attempt := by
    rw [hhistory, List.getLast?_map, List.getLast?_map, ha]
    rfl
  have hne : made ≠ [] := by
    rintro rfl
    cases ha
  have hpos : 0 < r.attemptHistory.length := by
    rw [hhistory, List.length_map]
    exact List.length_pos_iff.mpr hne
  rw [hr.numbered, List.getLast?_range'] at hlast
  rw [if_neg (by omega), Option.some.injEq] at hlast
  rw [hr.attempts]
  omega

/-- A write that follows attempts found as they were chosen. -/
theorem settled_write (o : Outbox) {made : List MadeAttempt} (hs : Settled d item made) (hitem : item.Coherent)
    (hhistory : item.attemptHistory = made.map MadeAttempt.entry)
    (hretry : ∀ a ∈ made, ∀ t ∈ a.retryAt, t = a.entry.attemptedAt + d.baseDelaySeconds * 2 ^ (a.entry.attempt - 1) * 1000000 ∧
      (a.entry.attempt : ℤ) < d.maxAttempts)
    (hunsent : item.deliveryStatus ≠ "sent") (hpassed : ∀ t ∈ item.nextAttemptAt, t ≤ now) (hpending : due = true → Pending item) :
    Settled d (d.write item now updatedAt l item) (made ++ [added d o item now due seen chosen l]) := by
  have hfailed : ∀ a ∈ made, a.success = false := by
    intro a ha
    by_contra hne
    exact hunsent (hs.sent.mpr ⟨a, ha, by simpa using hne⟩)
  have hnone : made.find? MadeAttempt.success = none := by
    refine List.find?_eq_none.mpr fun a ha => ?_
    simp [hfailed a ha]
  have hfollows : ∀ a ∈ made.getLast?, MadeAttempt.Precedes a (added d o item now due seen chosen l) := by
    intro a ha
    have hmem := List.mem_of_getLast? ha
    refine ⟨hfailed a hmem, fun t ht => hpassed t ?_, fun hdue => ?_⟩
    · rw [hs.nextAttemptAt, ha]
      exact ht
    · have hstatus := hs.status
      rw [ha] at hstatus
      simp only [statusAfter, hfailed a hmem, Bool.false_eq_true, if_false] at hstatus
      by_contra hretries
      rw [if_neg hretries] at hstatus
      rcases hpending hdue with hp | hp <;> rw [hp] at hstatus <;> revert hstatus <;> decide
  constructor
  · exact List.isChain_append.mpr ⟨hs.order, List.isChain_singleton _, fun a ha b hb => by
      rw [List.head?_cons, Option.mem_some_iff] at hb
      rw [← hb]
      exact hfollows a ha⟩
  · rw [List.getLast?_concat]
    exact write_status o
  · rw [List.getLast?_concat]
    exact write_nextAttemptAt o
  · rw [write_sent]
    constructor
    · intro h
      exact ⟨_, List.mem_concat_self, h⟩
    · rintro ⟨a, ha, hsuccess⟩
      rcases List.mem_append.mp ha with ha | ha
      · rw [hfailed a ha] at hsuccess
        cases hsuccess
      · rw [List.mem_singleton.mp ha] at hsuccess
        exact hsuccess
  · rw [List.find?_append, hnone, Option.none_or]
    have hdelivered := hs.deliveredAt
    rw [hnone] at hdelivered
    unfold NotificationDispatcherService.write
    by_cases h : l.success = true
    · simp [h, added, NotificationOutboxItem.entry]
    · simp [h, added, hdelivered]
  · intro a ha hdue
    rcases List.mem_append.mp ha with ha | ha
    · exact hs.budget a ha hdue
    · rw [List.mem_singleton.mp ha] at hdue ⊢
      change ((item.deliveryAttempts + 1 : ℕ) : ℤ) ≤ _
      cases hlast : made.getLast? with
      | none =>
        rw [List.getLast?_eq_none_iff] at hlast
        rw [hitem.attempts, hhistory, hlast]
        simp
      | some b =>
        have hnumber := attempt_getLast hitem hhistory hlast
        have hprecedes := hfollows b hlast
        obtain ⟨t, ht⟩ := Option.isSome_iff_exists.mp (hprecedes.2.2 hdue)
        have hleft := (hretry b (List.mem_of_getLast? hlast) t ht).2
        rw [hnumber] at hleft
        omega

/-- A write keeps what holds of a row and its attempts. -/
theorem tracked_write (ht : Tracked d r (o.madeFor item.notificationId))
    (h : Sending r (o.madeFor item.notificationId) item now due seen chosen)
    (hloaded : (o.madeFor item.notificationId).length = seen → loaded = item)
    (hl : l.success = true ↔ (item.entry now l).Delivered) :
    Tracked d (loaded.flush (d.write item now updatedAt l loaded) r)
      (o.madeFor item.notificationId ++ [added d o item now due seen chosen l]) := by
  have hknown := h.known
  have hchosen := h.chosen_le
  have hseen := h.seen_le
  have hshorter := ht.shorter
  -- without a write of another call the row ends as it was assigned
  have hwritten : (o.madeFor item.notificationId).length = seen →
      r = item ∧ loaded.flush (d.write item now updatedAt l loaded) r = d.write item now updatedAt l item := by
    intro hsame
    rw [h.same hsame, hloaded hsame]
    exact ⟨rfl, flush_self⟩
  -- the history is the one that is stored, or the one that was read with the new entry
  have hlength : (loaded.flush (d.write item now updatedAt l loaded) r).attemptHistory.length = r.attemptHistory.length ∨
      (loaded.flush (d.write item now updatedAt l loaded) r).attemptHistory.length = item.attemptHistory.length + 1 := by
    rcases Table.changedColumn_or loaded.attemptHistory (d.write item now updatedAt l loaded).attemptHistory r.attemptHistory
      with h | h
    · exact .inl (congrArg List.length h)
    · exact .inr ((congrArg List.length (h.trans write_attemptHistory)).trans List.length_append)
  constructor
  · intro hall
    have hlast := hall _ List.mem_concat_self
    obtain ⟨heq, hflush⟩ := hwritten (by simpa [added] using hlast)
    rw [hflush]
    exact write_coherent (heq ▸ ht.coherent fun a ha => hall a (List.mem_append_left _ ha)) hl
  · intro a ha t hat
    rcases List.mem_append.mp ha with ha | ha
    · exact ht.retry a ha t hat
    · rw [List.mem_singleton.mp ha] at hat ⊢
      by_cases hs : l.success = true
      · simp [added, hs] at hat
      · simp only [added, hs, Bool.false_eq_true, if_false] at hat
        exact retryAt_spec hat
  · rw [List.length_append, List.length_singleton]
    omega
  · intro hall
    have hlast := hall _ List.mem_concat_self
    obtain ⟨heq, hflush⟩ := hwritten (by simpa [added] using hlast)
    rw [hflush, write_attemptHistory, ← heq, ht.complete fun a ha => hall a (List.mem_append_left _ ha), heq]
    simp [added]
  · intro hsome
    obtain ⟨a, ha, hover⟩ := hsome
    rw [List.length_append, List.length_singleton]
    by_cases hsame : (o.madeFor item.notificationId).length = seen
    · obtain ⟨heq, hflush⟩ := hwritten hsame
      rcases List.mem_append.mp ha with ha | ha
      · have hlost := ht.lost ⟨a, ha, hover⟩
        rw [heq] at hlost
        rw [hflush, write_attemptHistory, List.length_append, List.length_singleton]
        omega
      · rw [List.mem_singleton.mp ha] at hover
        simp [added, hsame] at hover
    · omega
  · intro a ha hstale
    rcases List.mem_append.mp ha with ha | ha
    · exact ht.stale a ha hstale
    · rw [List.mem_singleton.mp ha] at hstale ⊢
      have hfound : (o.madeFor item.notificationId).length = chosen := by simpa [added] using hstale
      have hsame : (o.madeFor item.notificationId).length = seen := by omega
      simp [added, hsame]
  · intro hall
    have hlast := hall _ List.mem_concat_self
    have hfound : (o.madeFor item.notificationId).length = chosen := by simpa [added] using hlast
    obtain ⟨heq, hflush⟩ := hwritten (by omega)
    have hbefore : ∀ a ∈ o.madeFor item.notificationId, a.stale = false := fun a ha => hall a (List.mem_append_left _ ha)
    have halone : ∀ a ∈ o.madeFor item.notificationId, a.overlapped = false := fun a ha => ht.stale a ha (hbefore a ha)
    rw [hflush]
    rw [heq] at ht
    exact settled_write o (ht.settled hbefore) (ht.coherent halone) (ht.complete halone) ht.retry h.unsent h.passed
      fun hdue => h.pending hdue hfound

/-! ## The outbox -/

/-- The rows have their own keys, and each is tracked. -/
structure Sound (d : NotificationDispatcherService) (o : Outbox) : Prop where
  nodup : (o.rows.map NotificationOutboxItem.notificationId).Nodup
  tracked : ∀ k r, o.get k = some r → Tracked d r (o.madeFor k)
  absent : ∀ k, o.get k = none → o.madeFor k = []

/-- What a statement may do to another call's notification: rows stay, and a row only changes with an attempt. -/
def Moves (o o' : Outbox) : Prop :=
  ∀ k r, o.get k = some r → (o.madeFor k).length ≤ (o'.madeFor k).length ∧ (∃ r', o'.get k = some r') ∧
    ((o'.madeFor k).length = (o.madeFor k).length → o'.get k = some r)

theorem Moves.refl (o : Outbox) : Moves o o := fun _ r hr => ⟨le_refl _, ⟨r, hr⟩, fun _ => hr⟩

theorem moves_createNotification (item : NotificationOutboxItem) (now : ℤ) : Moves o (o.createNotification item now) := by
  intro k r hr
  have hsame : (o.createNotification item now).get k = some r := by
    by_cases hk : item.notificationId = k
    · have hexists : (o.createNotification item now) = o := by
        unfold Outbox.createNotification
        rw [hk, hr]
        rfl
      rw [hexists, hr]
    · rw [get_createNotification_other now hk, hr]
  rw [madeFor_createNotification]
  exact ⟨le_refl _, ⟨r, hsame⟩, fun _ => hsame⟩

theorem moves_settle : Moves o (o.settle d item loaded now updatedAt due seen chosen l) := by
  intro k r hr
  by_cases hk : k = item.notificationId
  · subst hk
    rw [madeFor_settle_self, List.length_append, List.length_singleton, get_settle_self hr]
    exact ⟨by omega, ⟨_, rfl⟩, fun h => by omega⟩
  · rw [madeFor_settle_other hk, get_settle_other hk]
    exact ⟨le_refl _, ⟨r, hr⟩, fun _ => hr⟩

theorem Sound.createNotification (h : Sound d o) (hitem : item.Fresh) (now : ℤ) : Sound d (o.createNotification item now) := by
  cases hget : o.get item.notificationId with
  | some r =>
    have hsame : o.createNotification item now = o := by
      unfold Outbox.createNotification
      rw [hget]
      rfl
    rw [hsame]
    exact h
  | none =>
    have hrows : (o.createNotification item now).rows.map NotificationOutboxItem.notificationId =
        o.rows.map NotificationOutboxItem.notificationId ++ [item.notificationId] := by
      unfold Outbox.createNotification
      rw [hget]
      simp
    constructor
    · rw [hrows, List.nodup_append]
      refine ⟨h.nodup, List.nodup_singleton _, fun k hk k' hk' heq => ?_⟩
      obtain ⟨r, hr, hrk⟩ := List.mem_map.mp hk
      exact Table.get_none.mp hget r hr (hrk.trans (heq.trans (List.mem_singleton.mp hk')))
    · intro k r hr
      rw [madeFor_createNotification]
      by_cases hk : item.notificationId = k
      · subst hk
        rw [get_createNotification_self now hget] at hr
        cases hr
        rw [h.absent _ hget]
        exact tracked_fresh hitem _ _
      · rw [get_createNotification_other now hk] at hr
        exact h.tracked k r hr
    · intro k hr
      rw [madeFor_createNotification]
      by_cases hk : item.notificationId = k
      · subst hk
        rw [get_createNotification_self now hget] at hr
        cases hr
      · rw [get_createNotification_other now hk] at hr
        exact h.absent k hr

theorem Sound.settle (h : Sound d o) (hr : o.get item.notificationId = some r)
    (hsending : Sending r (o.madeFor item.notificationId) item now due seen chosen)
    (hloaded : (o.madeFor item.notificationId).length = seen → loaded = item)
    (hl : l.success = true ↔ (item.entry now l).Delivered) :
    Sound d (o.settle d item loaded now updatedAt due seen chosen l) := by
  constructor
  · have hrows : (o.settle d item loaded now updatedAt due seen chosen l).rows.map NotificationOutboxItem.notificationId =
        o.rows.map NotificationOutboxItem.notificationId := Table.map_modify fun _ => rfl
    rw [hrows]
    exact h.nodup
  · intro k r' hr'
    by_cases hk : k = item.notificationId
    · subst hk
      rw [get_settle_self hr] at hr'
      cases hr'
      rw [madeFor_settle_self]
      exact tracked_write (h.tracked _ r hr) hsending hloaded hl
    · rw [get_settle_other hk] at hr'
      rw [madeFor_settle_other hk]
      exact h.tracked k r' hr'
  · intro k hnone
    by_cases hk : k = item.notificationId
    · subst hk
      rw [get_settle_self hr] at hnone
      cases hnone
    · rw [get_settle_other hk] at hnone
      rw [madeFor_settle_other hk]
      exact h.absent k hnone

/-! ## The calls -/

/-- A notification that is left to dispatch: if none of its attempts was written since it was chosen, it is as it was listed. -/
def Ready (o : Outbox) (due : Bool) (e : String × ℕ) : Prop :=
  ∀ r, o.get e.1 = some r →
    e.2 ≤ (o.madeFor e.1).length ∧ (due = true → (o.madeFor e.1).length = e.2 → Pending r)

/-- What holds of an item that the adapters have been called for, until its attempt is written. -/
def Sent (o : Outbox) (item : NotificationOutboxItem) (now : ℤ) (due : Bool) (seen chosen : ℕ) : Prop :=
  ∃ r, o.get item.notificationId = some r ∧ Sending r (o.madeFor item.notificationId) item now due seen chosen

/-- What holds of a call while the statements of others run. A notification that is missing when it is chosen is left out, so
a queue is only about rows that are there. -/
def Placed (o : Outbox) : OutboxCall → Prop
  | .create item => item.Fresh
  | .dispatch _ => True
  | .dispatchDue _ => True
  | .pending due queue => ∀ e ∈ queue, (∃ r, o.get e.1 = some r) ∧ Ready o due e
  | .sending item now due seen chosen queue =>
    Sent o item now due seen chosen ∧ ∀ e ∈ queue, (∃ r, o.get e.1 = some r) ∧ Ready o due e
  | .updating item loaded now due seen chosen l queue =>
    (Sent o item now due seen chosen ∧ ((o.madeFor item.notificationId).length = seen → loaded = item) ∧
        (l.success = true ↔ (item.entry now l).Delivered)) ∧
      ∀ e ∈ queue, (∃ r, o.get e.1 = some r) ∧ Ready o due e

theorem ready_moves (hm : Moves o o') {e : String × ℕ} (h : (∃ r, o.get e.1 = some r) ∧ Ready o due e) :
    (∃ r, o'.get e.1 = some r) ∧ Ready o' due e := by
  obtain ⟨⟨r, hr⟩, hready⟩ := h
  obtain ⟨hle, hexists, hsame⟩ := hm e.1 r hr
  obtain ⟨hchosen, hpending⟩ := hready r hr
  refine ⟨hexists, fun r' hr' => ⟨le_trans hchosen hle, fun hdue hlen => ?_⟩⟩
  rw [hsame (by omega)] at hr'
  cases hr'
  exact hpending hdue (by omega)

theorem sent_moves (hm : Moves o o') (h : Sent o item now due seen chosen) :
    Sent o' item now due seen chosen ∧
      ((o'.madeFor item.notificationId).length = seen → (o.madeFor item.notificationId).length = seen) := by
  obtain ⟨r, hr, hs⟩ := h
  obtain ⟨hle, ⟨r', hr'⟩, hsame⟩ := hm _ r hr
  have hseen := hs.seen_le
  have hchosen := hs.chosen_le
  refine ⟨⟨r', hr', ?_⟩, fun hlen => by omega⟩
  constructor
  · exact hs.known
  · exact hs.chosen_le
  · exact le_trans hs.seen_le hle
  · intro hlen
    rw [hsame (by omega)] at hr'
    cases hr'
    exact hs.same (by omega)
  · exact hs.unsent
  · exact hs.passed
  · exact fun hdue hlen => hs.pending hdue (by omega)

theorem placed_moves (hm : Moves o o') {call : OutboxCall} (h : Placed o call) : Placed o' call := by
  cases call with
  | create item => exact h
  | dispatch notificationId => exact h
  | dispatchDue limit => exact h
  | pending due queue => exact fun e he => ready_moves hm (h e he)
  | sending item now due seen chosen queue =>
    exact ⟨(sent_moves hm h.1).1, fun e he => ready_moves hm (h.2 e he)⟩
  | updating item loaded now due seen chosen l queue =>
    obtain ⟨⟨hsent, hloaded, hl⟩, hqueue⟩ := h
    obtain ⟨hsent', hlen⟩ := sent_moves hm hsent
    exact ⟨⟨hsent', fun h => hloaded (hlen h), hl⟩, fun e he => ready_moves hm (hqueue e he)⟩

theorem placed_choose (h : Sound d o) {k : String} (hk : ∀ r, o.get k = some r → Ready o due (k, chosen)) {queue : List (String × ℕ)}
    (hqueue : ∀ e ∈ queue, (∃ r, o.get e.1 = some r) ∧ Ready o due e) : Placed o (o.choose now due k chosen queue) := by
  unfold Outbox.choose
  cases hget : o.get k with
  | none => exact hqueue
  | some r =>
    dsimp only
    split
    · exact hqueue
    · rename_i hunsent
      split
      · exact hqueue
      · rename_i hpassed
        have hkey := get_key hget
        have ht := h.tracked k r hget
        obtain ⟨hchosen, hpending⟩ := hk r hget r hget
        refine ⟨⟨r, by rw [hkey, hget], ?_⟩, hqueue⟩
        rw [hkey]
        constructor
        · exact ht.shorter
        · exact hchosen
        · exact le_refl _
        · exact fun _ => rfl
        · exact hunsent
        · intro t htime
          by_contra hlater
          exact hpassed ⟨t, htime, by omega⟩
        · exact hpending

/-- The rows that are listed are there and wait to be dispatched. -/
theorem ready_listDue (h : Sound d o) {limit : ℕ} {r : NotificationOutboxItem} (hr : r ∈ o.listDue now limit) :
    (∃ r', o.get r.notificationId = some r') ∧ Ready o true (r.notificationId, (o.madeFor r.notificationId).length) := by
  have hmem := (sortOn_perm _ _).mem_iff.mp (List.mem_of_mem_take hr)
  obtain ⟨hrow, hlisted⟩ := List.mem_filter.mp hmem
  have hget : o.get r.notificationId = some r := Table.get_of_mem h.nodup hrow
  refine ⟨⟨r, hget⟩, fun r' hr' => ⟨le_refl _, fun _ _ => ?_⟩⟩
  rw [hget] at hr'
  cases hr'
  simpa [Pending] using (Bool.and_eq_true_iff.mp hlisted).1

theorem moves_advance (input : OutboxInput) (call : OutboxCall) (o : Outbox) : Moves o (d.advance input call o).2 := by
  cases call with
  | create item => exact moves_createNotification item input.now
  | dispatch notificationId => exact Moves.refl o
  | dispatchDue limit => exact Moves.refl o
  | pending due queue =>
    cases queue with
    | nil => exact Moves.refl o
    | cons e queue => exact Moves.refl o
  | sending item now due seen chosen queue => exact Moves.refl o
  | updating item loaded now due seen chosen l queue => exact moves_settle

theorem keeps_advance (d : NotificationDispatcherService) :
    Sessions.Keeps d.advance OutboxCall.Starts (Sound d) (fun call o => Placed o call) where
  start o call _ hstarts := by
    cases call with
    | create item => exact hstarts
    | dispatch notificationId => exact trivial
    | dispatchDue limit => exact trivial
    | pending due queue => exact absurd hstarts id
    | sending item now due seen chosen queue => exact absurd hstarts id
    | updating item loaded now due seen chosen l queue => exact absurd hstarts id
  stored input call o h hplaced := by
    cases call with
    | create item => exact h.createNotification hplaced input.now
    | dispatch notificationId => exact h
    | dispatchDue limit => exact h
    | pending due queue =>
      cases queue with
      | nil => exact h
      | cons e queue => exact h
    | sending item now due seen chosen queue => exact h
    | updating item loaded now due seen chosen l queue =>
      obtain ⟨⟨⟨r, hr, hsending⟩, hloaded, hl⟩, -⟩ := hplaced
      exact h.settle hr hsending hloaded hl
  call input call o call' h hplaced hnext := by
    cases call with
    | create item => cases hnext
    | dispatch notificationId =>
      cases hnext
      refine placed_choose h (fun r hr r' hr' => ⟨le_refl _, fun hdue => ?_⟩) fun e he => ?_
      · cases hdue
      · cases he
    | dispatchDue limit =>
      cases hnext
      intro e he
      obtain ⟨r, hr, rfl⟩ := List.mem_map.mp he
      exact ready_listDue h hr
    | pending due queue =>
      cases queue with
      | nil => cases hnext
      | cons e queue =>
        cases hnext
        exact placed_choose h (fun _ _ => (hplaced e List.mem_cons_self).2) fun e' he' => hplaced e' (List.mem_cons_of_mem _ he')
    | sending item now due seen chosen queue =>
      obtain ⟨⟨r, hr, hsending⟩, hqueue⟩ := hplaced
      simp only [NotificationDispatcherService.advance, hr, Option.some.injEq] at hnext
      subst hnext
      exact ⟨⟨⟨r, hr, hsending⟩, hsending.same, attempt_success item input.answers now⟩, hqueue⟩
    | updating item loaded now due seen chosen l queue =>
      cases hnext
      exact fun e he => ready_moves moves_settle (hplaced.2 e he)
  other input call o u _ _ hu := placed_moves (moves_advance input call o) hu

/-- What holds of the outbox after every run. -/
theorem sound_runOutbox (d : NotificationDispatcherService) {ops : List (Sessions.Op OutboxCall OutboxInput)}
    (hops : Sessions.Begins OutboxCall.Starts ops) : Sound d (d.runOutbox ops).stored := by
  have hempty : Sound d {} := by
    constructor
    · exact List.nodup_nil
    · intro k r hr
      cases hr
    · exact fun _ _ => rfl
  refine ((keeps_advance d).run (w := { stored := {} }) ⟨hempty, fun call t ht => ?_⟩ hops).1
  cases ht

end NotificationOutboxAux

open NotificationOutboxAux

/-! ## Results -/

/-- In any order of the statements the history of a row lists every attempt exactly when none was written between the read and the
write of another, and then the row agrees with itself. -/
theorem outbox_history_iff (d : NotificationDispatcherService) {ops : List (Sessions.Op OutboxCall OutboxInput)}
    (hops : Sessions.Begins OutboxCall.Starts ops) {r : NotificationOutboxItem} (hr : r ∈ (d.runOutbox ops).stored.rows) :
    (r.attemptHistory = ((d.runOutbox ops).stored.madeFor r.notificationId).map MadeAttempt.entry ↔
      ∀ a ∈ (d.runOutbox ops).stored.madeFor r.notificationId, a.overlapped = false) ∧
      (r.attemptHistory = ((d.runOutbox ops).stored.madeFor r.notificationId).map MadeAttempt.entry → r.Coherent) := by
  have hsound := sound_runOutbox d hops
  have ht := hsound.tracked _ r (Table.get_of_mem hsound.nodup hr)
  have halone : r.attemptHistory = ((d.runOutbox ops).stored.madeFor r.notificationId).map MadeAttempt.entry →
      ∀ a ∈ (d.runOutbox ops).stored.madeFor r.notificationId, a.overlapped = false := by
    intro hall a ha
    by_contra hover
    have hlost := ht.lost ⟨a, ha, by simpa using hover⟩
    rw [hall, List.length_map] at hlost
    omega
  exact ⟨⟨halone, ht.complete⟩, fun hall => ht.coherent (halone hall)⟩

/-- A notification that every call found as it chose it is delivered at most once, by its last attempt; a retry waits for its
delay, and the due dispatcher keeps to its budget. -/
theorem outbox_delivered_once (d : NotificationDispatcherService) {ops : List (Sessions.Op OutboxCall OutboxInput)}
    (hops : Sessions.Begins OutboxCall.Starts ops) {r : NotificationOutboxItem} (hr : r ∈ (d.runOutbox ops).stored.rows)
    (hfound : ∀ a ∈ (d.runOutbox ops).stored.madeFor r.notificationId, a.stale = false) :
    DeliveredOnce d r ((d.runOutbox ops).stored.madeFor r.notificationId) := by
  have hsound := sound_runOutbox d hops
  have ht := hsound.tracked _ r (Table.get_of_mem hsound.nodup hr)
  have hs := ht.settled hfound
  constructor
  · exact ht.complete fun a ha => ht.stale a ha (hfound a ha)
  · exact hs.order
  · exact hs.sent
  · exact hs.deliveredAt
  · exact fun a ha t hat => (ht.retry a ha t hat).1
  · exact hs.budget

namespace NotificationOutboxAux

/-- The default settings. -/
def sampleService : NotificationDispatcherService := .construct none none

def sampleNotification : NotificationOutboxItem where
  notificationId := "risk:1"
  eventType := "risk_event"
  severity := "high"
  deliveryChannels := ["telegram"]
  subject := "HIGH risk event: drawdown"
  body := "drawdown"

/-- Adapters that all answer, or all raise. -/
def allAnswer (now : ℤ) (reached : Bool) : OutboxInput where
  now := now
  answers := fun _ channel => some (if reached then .ok { channel, success := true } else .error "timeout")

/-- The due dispatcher fails once, and is back after the delay. -/
def sampleRetry : List (Sessions.Op OutboxCall OutboxInput) :=
  [.start 0 (.create sampleNotification), .advance 0 (allAnswer 0 true), .start 1 (.dispatchDue 20), .advance 1 (allAnswer 0 false),
    .advance 1 (allAnswer 0 false), .advance 1 (allAnswer 0 false), .advance 1 (allAnswer 0 false), .start 2 (.dispatchDue 20),
    .advance 2 (allAnswer 300000000 true), .advance 2 (allAnswer 300000000 true), .advance 2 (allAnswer 300000000 true),
    .advance 2 (allAnswer 300000000 true)]

/-- Two dispatchers load the row before either writes it. The first one fails and the second one delivers. -/
def sampleOverlap : List (Sessions.Op OutboxCall OutboxInput) :=
  [.start 0 (.create sampleNotification), .advance 0 (allAnswer 0 true), .start 1 (.dispatch "risk:1"), .start 2 (.dispatch "risk:1"),
    .advance 1 (allAnswer 0 true), .advance 2 (allAnswer 0 true), .advance 1 (allAnswer 0 false), .advance 2 (allAnswer 0 true),
    .advance 1 (allAnswer 0 true), .advance 2 (allAnswer 0 true)]

theorem sampleNotification_fresh : sampleNotification.Fresh := ⟨rfl, rfl, rfl, rfl, rfl, rfl⟩

theorem sampleRetry_begins : Sessions.Begins OutboxCall.Starts sampleRetry := by
  simp [sampleRetry, OutboxCall.Starts, sampleNotification_fresh]

theorem sampleOverlap_begins : Sessions.Begins OutboxCall.Starts sampleOverlap := by
  simp [sampleOverlap, OutboxCall.Starts, sampleNotification_fresh]

end NotificationOutboxAux

/-- Of two attempts at once the history keeps one. -/
theorem outbox_history_twoAtOnce : ∃ r ∈ (sampleService.runOutbox sampleOverlap).stored.rows,
    r.attemptHistory ≠ ((sampleService.runOutbox sampleOverlap).stored.madeFor r.notificationId).map MadeAttempt.entry := by
  obtain ⟨r, hr, hover⟩ : ∃ r ∈ (sampleService.runOutbox sampleOverlap).stored.rows,
      ¬∀ a ∈ (sampleService.runOutbox sampleOverlap).stored.madeFor r.notificationId, a.overlapped = false := by decide +kernel
  exact ⟨r, hr, fun heq => hover ((outbox_history_iff sampleService sampleOverlap_begins hr).1.mp heq)⟩

/-- A delivery by the second attempt. -/
theorem outbox_delivered_once_retry : ∃ r ∈ (sampleService.runOutbox sampleRetry).stored.rows,
    r.deliveryAttempts = 2 ∧ r.deliveryStatus = "sent" ∧
      DeliveredOnce sampleService r ((sampleService.runOutbox sampleRetry).stored.madeFor r.notificationId) := by
  obtain ⟨r, hr, hattempts, hsent, hfound⟩ : ∃ r ∈ (sampleService.runOutbox sampleRetry).stored.rows,
      r.deliveryAttempts = 2 ∧ r.deliveryStatus = "sent" ∧
        ∀ a ∈ (sampleService.runOutbox sampleRetry).stored.madeFor r.notificationId, a.stale = false := by decide +kernel
  exact ⟨r, hr, hattempts, hsent, outbox_delivered_once sampleService sampleRetry_begins hr hfound⟩

/-! ## Risk events -/

/-- An event that is announced. -/
def RiskEvent.Announced (event : RiskEvent) : Prop := event.severity = "high" ∨ event.severity = "critical"

/-- The outbox after the events were announced, from an empty one. -/
def announce (upper : String → String) (events : List (ℤ × RiskEvent)) : Outbox :=
  events.foldl (fun o e => o.enqueueRiskEventNotification upper e.1 e.2) {}

namespace NotificationOutboxAux

variable {upper : String → String} {o : Outbox}

/-- The id under which an event is announced on its own. -/
def announcedId (event : RiskEvent) : String := "risk:" ++ orText event.riskEventId "risk-1"

/-- An announcement adds a row exactly if there is none under its id. -/
theorem enqueue_rows (upper : String → String) (o : Outbox) (now : ℤ) (event : RiskEvent) :
    (o.enqueueRiskEventNotification upper now event).rows.map NotificationOutboxItem.notificationId =
      o.rows.map NotificationOutboxItem.notificationId ++
        if (event.severity = "high" ∨ event.severity = "critical") ∧ o.get (announcedId event) = none then [announcedId event] else [] := by
  unfold Outbox.enqueueRiskEventNotification riskEventNotifications
  simp only [List.foldl_cons, List.foldl_nil]
  by_cases hsevere : event.severity = "high" ∨ event.severity = "critical"
  · simp only [hsevere, if_true, List.nil_append, true_and]
    unfold Outbox.createNotification
    change (if (o.get (announcedId event)).isSome = true then o else _).rows.map _ = _
    cases hget : o.get (announcedId event) with
    | none =>
      have hfirst : "risk-" ++ toString (0 + 1) = "risk-1" := by decide
      simp [announcedId, ← hfirst]
    | some r => simp
  · simp [hsevere]

/-- The rows are the ids of the events that were announced. -/
theorem get_announce_none (upper : String → String) (events : List (ℤ × RiskEvent)) (k : String) :
    (announce upper events).get k = none ↔ ∀ e ∈ events, e.2.Announced → announcedId e.2 ≠ k := by
  have hmem : ∀ o : Outbox, o.get k = none ↔ k ∉ o.rows.map NotificationOutboxItem.notificationId := by
    intro o
    refine Table.get_none.trans ⟨fun h hk => ?_, fun h r hr hk => h (hk ▸ List.mem_map_of_mem hr)⟩
    obtain ⟨r, hr, hkey⟩ := List.mem_map.mp hk
    exact h r hr hkey
  have hfold : ∀ o : Outbox,
      (events.foldl (fun o e => o.enqueueRiskEventNotification upper e.1 e.2) o).get k = none ↔
        o.get k = none ∧ ∀ e ∈ events, e.2.Announced → announcedId e.2 ≠ k := by
    induction events with
    | nil => simp
    | cons e events ih =>
      intro o
      rw [List.foldl_cons, ih, List.forall_mem_cons, hmem, enqueue_rows, List.mem_append, not_or, ← hmem, and_assoc]
      refine and_congr_right fun hk => and_congr_left fun _ => ?_
      constructor
      · intro hnot hannounced heq
        rw [if_pos ⟨hannounced, heq ▸ hk⟩, heq] at hnot
        exact hnot (List.mem_singleton_self _)
      · intro hne hk'
        split at hk'
        · rename_i hadded
          exact hne hadded.1 (List.mem_singleton.mp hk').symm
        · cases hk'
  refine (hfold {}).trans (and_iff_right rfl)

end NotificationOutboxAux

/-- After any announcements, an event gets a row of its own exactly if it is severe and no severe event before it had its id,
where every event without an id has the same one. -/
theorem announce_kept_iff (upper : String → String) (before : List (ℤ × RiskEvent)) (now : ℤ) (event : RiskEvent) :
    ((announce upper (before ++ [(now, event)])).rows.length = (announce upper before).rows.length + 1 ↔
      event.Announced ∧ ∀ e ∈ before, e.2.Announced →
        orText e.2.riskEventId "risk-1" ≠ orText event.riskEventId "risk-1") ∧
      ((announce upper before).rows <+: (announce upper (before ++ [(now, event)])).rows) := by
  have hids := enqueue_rows upper (announce upper before) now event
  have hlast : announce upper (before ++ [(now, event)]) =
      (announce upper before).enqueueRiskEventNotification upper now event := by
    simp [announce, List.foldl_append]
  have hid : ∀ e e' : RiskEvent, announcedId e ≠ announcedId e' ↔ orText e.riskEventId "risk-1" ≠ orText e'.riskEventId "risk-1" := by
    intro e e'
    simp [announcedId]
  rw [hlast]
  constructor
  · have hlength := congrArg List.length hids
    rw [List.length_map, List.length_append, List.length_map] at hlength
    rw [hlength, Nat.add_left_cancel_iff]
    have hnone := get_announce_none upper before (announcedId event)
    constructor
    · intro hone
      split at hone
      · rename_i hadded
        exact ⟨hadded.1, fun e he hannounced => (hid _ _).mp (hnone.mp hadded.2 e he hannounced)⟩
      · cases hone
    · rintro ⟨hannounced, hfirst⟩
      rw [if_pos ⟨hannounced, hnone.mpr fun e he he' => (hid _ _).mpr (hfirst e he he')⟩]
      rfl
  · unfold Outbox.enqueueRiskEventNotification
    split
    · exact List.prefix_refl _
    · unfold Outbox.createNotification
      split
      · exact List.prefix_refl _
      · exact List.prefix_append _ _

end TradingPlatform
