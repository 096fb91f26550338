import TradingPlatform.Engine.PaperExchange
import TradingPlatform.Lib.Loops

/-!
# An acknowledged order

One handler stands for every failure of `ensure_binance_execution`, also for those after the exchange took the order. It spares
the order only when the exception says that the outcome is unknown, or an emergency close fails before the acknowledgement is
stored.
-/

namespace TradingPlatform

/-! ## The statement -/

/-- What a submission starts from: a session that works, the record that was just created, and the local order. -/
structure MirrorCall.Prepared (c : MirrorCall) (s : ExecutionStore) : Prop where
  usable : s.needsRollback = false
  recorded : ∀ id, c.record = some id → ∃ row, s.exchangeOrder id = some row ∧ row.state = .exchangeSubmitting
  stored : c.repository = true → ∃ row, s.order c.order.orderExecutionId = some row
  status : c.order.executionStatus ≠ ExchangeOrderState.exchangeRejected.value

/-- The handler asks for a permitted transition, comes to the local order, and neither the record nor the local order is
rejected. -/
structure NotRejected (s : ExecutionStore) (c : MirrorCall) (e : PyException)
    (out : Except PyException OrderExecutionRow × ExecutionStore) : Prop where
  permitted : ∀ id row, c.record = some id → s.exchangeOrder id = some row →
    validateExchangeOrderTransition row.state e.failureState = .ok ()
  record : ∀ id row, c.record = some id → out.2.exchangeOrder id = some row → row.state ≠ .exchangeRejected
  returned : ∃ order, out.1 = .ok order ∧ order.executionStatus ≠ ExchangeOrderState.exchangeRejected.value
  order : c.repository = true → ∀ row, out.2.order c.order.orderExecutionId = some row →
    row.executionStatus ≠ ExchangeOrderState.exchangeRejected.value

/-- The exception spares the order. With a record the session must work too, and a failed emergency close must come before the
acknowledgement. -/
def Spared (s : ExecutionStore) (c : MirrorCall) (e : PyException) : Prop :=
  match c.record with
  | none => c.repository = false ∨ e.failureState ≠ .exchangeRejected ∨ c.foundFlat e = true
  | some id =>
    s.needsRollback = false ∧ e.failureState ≠ .exchangeRejected ∧
      (e.emergencyCloseFailed = true → ∀ row, s.exchangeOrder id = some row → row.state = .exchangeSubmitting)

namespace AcknowledgedAux

/-! ## The update of a record -/

section Update

variable {s s' : ExecutionStore} {id : String} {row : ExchangeOrderRow} {nextState : ExchangeOrderState}

/-- An update leaves the local orders, and the record in its state or in the one that is asked for. -/
theorem updateExchangeOrder_spec {exchangeOrderId : Option (Option String)} {failure : Option UpdateFailure}
    {out : Except PyException Unit} (h : updateExchangeOrder s id nextState exchangeOrderId failure = (out, s'))
    (hrow : s.exchangeOrder id = some row) :
    s'.orders = s.orders ∧ ∃ row', s'.exchangeOrder id = some row' ∧ (row'.state = row.state ∨ row'.state = nextState) := by
  have hkept : s.orders = s.orders ∧ ∃ row', s.exchangeOrder id = some row' ∧ (row'.state = row.state ∨ row'.state = nextState) :=
    ⟨rfl, row, hrow, .inl rfl⟩
  have hstored : ∀ f : ExchangeOrderRow → ExchangeOrderRow, (∀ r, (f r).exchangeOrderRecordId = r.exchangeOrderRecordId) →
      (∀ r, (f r).state = nextState) →
      ∃ row', Table.get ExchangeOrderRow.exchangeOrderRecordId
          (Table.modify ExchangeOrderRow.exchangeOrderRecordId s.exchangeOrders id f) id = some row' ∧
        (row'.state = row.state ∨ row'.state = nextState) := by
    intro f hkey hstate
    have hget : Table.get ExchangeOrderRow.exchangeOrderRecordId s.exchangeOrders id = some row := hrow
    exact ⟨f row, by rw [Table.get_modify_self hkey, hget, Option.map_some], .inr (hstate row)⟩
  unfold updateExchangeOrder at h
  split at h
  · cases h
    exact hkept
  · split at h
    · cases h
      exact hkept
    · cases h
      exact hkept
    · split at h
      · cases h
        exact hkept
      · dsimp only at h
        split at h
        · cases h
          exact hkept
        · split at h
          · cases h
            exact hkept
          · cases h
            exact ⟨rfl, hstored _ (fun _ => rfl) fun _ => rfl⟩
          · cases h
            exact ⟨rfl, hstored _ (fun _ => rfl) fun _ => rfl⟩

variable (nextState) in
/-- An update of the state alone: it raises in a session that waits for a rollback and on a transition that is not permitted. -/
theorem updateExchangeOrder_state (hrow : s.exchangeOrder id = some row) :
    (s.needsRollback = false ∧ validateExchangeOrderTransition row.state nextState = .ok () ∧
        ∃ s' row', updateExchangeOrder s id nextState = (.ok (), s') ∧ s'.orders = s.orders ∧
          s'.exchangeOrder id = some row' ∧ row'.state = nextState) ∨
      (¬(s.needsRollback = false ∧ validateExchangeOrderTransition row.state nextState = .ok ()) ∧
        ∃ e s', updateExchangeOrder s id nextState = (.error e, s')) := by
  unfold updateExchangeOrder
  cases hsession : s.needsRollback with
  | true => exact .inr ⟨fun h => (nomatch h.1), _, _, if_pos rfl⟩
  | false =>
    rw [if_neg Bool.false_ne_true, hrow]
    dsimp only
    cases hvalid : validateExchangeOrderTransition row.state nextState with
    | error e => exact .inr ⟨fun h => (nomatch h.2), _, _, rfl⟩
    | ok _ =>
      refine .inl ⟨rfl, rfl, _, { row with state := nextState }, rfl, rfl, ?_, rfl⟩
      have hget : Table.get ExchangeOrderRow.exchangeOrderRecordId s.exchangeOrders id = some row := hrow
      refine (Table.get_modify_self (f := fun r : ExchangeOrderRow =>
        { r with state := nextState, exchangeOrderId := r.exchangeOrderId }) fun _ => rfl).trans ?_
      rw [hget]
      rfl

end Update

/-! ## The states -/

/-- The states in which a failure finds the record of an order that the gateway took. -/
def Reached (state : ExchangeOrderState) : Prop :=
  state = .exchangeSubmitting ∨ state = .exchangeAcknowledged ∨ state = .partiallyFilled ∨ state = .filled

theorem acknowledgedState_reached (r : GatewayResult) : Reached r.acknowledgedState := by
  unfold GatewayResult.acknowledgedState
  dsimp only
  split
  · exact .inr (.inr (.inr rfl))
  · split
    · exact .inr (.inr (.inl rfl))
    · exact .inr (.inl rfl)

/-- What the handler asks for. -/
theorem failureState_cases (e : PyException) :
    (e.emergencyCloseFailed = true ∧ e.failureState = .emergencyClosePending) ∨
      (e.emergencyCloseFailed = false ∧ (e.failureState = .exchangeUnknown ∨ e.failureState = .exchangeRejected)) := by
  unfold PyException.failureState
  cases e.emergencyCloseFailed with
  | true => exact .inl ⟨rfl, rfl⟩
  | false =>
    refine .inr ⟨rfl, ?_⟩
    cases e.uncertain with
    | true => exact .inl rfl
    | false => exact .inr rfl

/-- From a state it can find, the handler's transition is permitted and not to a rejection exactly if it is not a rejection, and an
emergency close is pending only before the acknowledgement. -/
theorem permitted_iff {state : ExchangeOrderState} (h : Reached state) (e : PyException) :
    (validateExchangeOrderTransition state e.failureState = .ok () ∧ e.failureState ≠ .exchangeRejected) ↔
      e.failureState ≠ .exchangeRejected ∧ (e.emergencyCloseFailed = true → state = .exchangeSubmitting) := by
  rcases failureState_cases e with ⟨hemergency, hstate⟩ | ⟨hemergency, hstate | hstate⟩
  · rw [hstate, hemergency]
    rcases h with rfl | rfl | rfl | rfl <;> decide
  · rw [hstate, hemergency]
    rcases h with rfl | rfl | rfl | rfl <;> decide
  · rw [hstate]
    exact iff_of_false (fun h => h.2 rfl) fun h => h.1 rfl

theorem value_eq_rejected {state : ExchangeOrderState} (h : state.value = ExchangeOrderState.exchangeRejected.value) :
    state = .exchangeRejected := by
  cases state <;> first | rfl | exact absurd h (by decide)

/-! ## The `try` block -/

/-- What a failure after the submission leaves. -/
theorem afterSubmission_error {s s' : ExecutionStore} {c : MirrorCall} {result : GatewayResult} {e : PyException}
    (hprepared : c.Prepared s) (h : afterSubmission s c result = (.error e, s')) :
    s'.orders = s.orders ∧ ∀ id, c.record = some id → ∃ row, s'.exchangeOrder id = some row ∧ Reached row.state := by
  have hacknowledge : ∀ out s₁, c.acknowledge s result = (out, s₁) →
      s₁.orders = s.orders ∧ ∀ id, c.record = some id → ∃ row, s₁.exchangeOrder id = some row ∧ Reached row.state := by
    intro out s₁ hrun
    unfold MirrorCall.acknowledge at hrun
    cases hrecord : c.record with
    | none =>
      rw [hrecord] at hrun
      cases hrun
      exact ⟨rfl, nofun⟩
    | some id =>
      rw [hrecord] at hrun
      obtain ⟨row, hrow, hstate⟩ := hprepared.recorded id hrecord
      obtain ⟨horders, row', hrow', hstate'⟩ := updateExchangeOrder_spec hrun hrow
      refine ⟨horders, fun id' hid' => ?_⟩
      cases hid'
      refine ⟨row', hrow', ?_⟩
      rcases hstate' with hkept | hnext
      · rw [hkept, hstate]
        exact .inl rfl
      · rw [hnext]
        exact acknowledgedState_reached result
  unfold afterSubmission at h
  split at h
  · rename_i e₁ s₁ hrun
    cases h
    exact hacknowledge _ _ hrun
  · rename_i s₁ hrun
    split at h
    · cases h
      exact hacknowledge _ _ hrun
    · obtain ⟨-, rfl⟩ := Prod.mk.inj h
      exact hacknowledge _ _ hrun

/-! ## The handler -/

/-- The end of the handler: the local order is changed and returned. -/
theorem updateOrder_stored {s : ExecutionStore} {order row : OrderExecutionRow} (change : OrderExecutionRow → OrderExecutionRow)
    (hkey : ∀ r, (change r).orderExecutionId = r.orderExecutionId) (hrow : s.order order.orderExecutionId = some row) :
    (updateOrder s order change).1 = change row ∧
      (updateOrder s order change).2.order order.orderExecutionId = some (change row) ∧
      (updateOrder s order change).2.exchangeOrders = s.exchangeOrders := by
  have hget : Table.get OrderExecutionRow.orderExecutionId s.orders order.orderExecutionId = some row := hrow
  unfold updateOrder
  rw [hrow]
  refine ⟨rfl, ?_, rfl⟩
  unfold ExecutionStore.order
  dsimp only
  rw [Table.get_modify_self hkey, hget]
  rfl

/-- The store as the handler takes it up. -/
def alarmed (s : ExecutionStore) (e : PyException) : ExecutionStore :=
  { s with entryKillSwitchActive := s.entryKillSwitchActive || e.emergencyCloseFailed }

/-- The handler raises if the update of the record does. -/
theorem handleFailure_raises {s s₁ : ExecutionStore} {c : MirrorCall} {e raised : PyException}
    (h : c.recordFailure (alarmed s e) e = (.error raised, s₁)) : handleFailure s c e = (.error raised, s₁) := by
  unfold alarmed at h
  unfold handleFailure
  dsimp only
  rw [h]

/-- Else the local order decides: it is spared without a repository, by another state, or when the exchange was flat already. -/
theorem handleFailure_order {s s₁ : ExecutionStore} {c : MirrorCall} {e : PyException}
    (h : c.recordFailure (alarmed s e) e = (.ok (), s₁))
    (hstored : c.repository = true → ∃ row, s₁.order c.order.orderExecutionId = some row)
    (hstatus : c.order.executionStatus ≠ ExchangeOrderState.exchangeRejected.value) :
    (((∃ order, (handleFailure s c e).1 = .ok order ∧ order.executionStatus ≠ ExchangeOrderState.exchangeRejected.value) ∧
        (c.repository = true → ∀ row, (handleFailure s c e).2.order c.order.orderExecutionId = some row →
          row.executionStatus ≠ ExchangeOrderState.exchangeRejected.value)) ↔
      c.repository = false ∨ e.failureState ≠ .exchangeRejected ∨ c.foundFlat e = true) ∧
      (handleFailure s c e).2.exchangeOrders = s₁.exchangeOrders := by
  have hrun : handleFailure s c e = if !c.repository then (.ok c.order, s₁) else
      (.ok (updateOrder s₁ c.order (if c.foundFlat e then flatOrder c.order else failedOrder e c.order)).1,
        (updateOrder s₁ c.order (if c.foundFlat e then flatOrder c.order else failedOrder e c.order)).2) := by
    unfold alarmed at h
    unfold handleFailure
    dsimp only
    rw [h]
  rw [hrun]
  cases hrepository : c.repository with
  | false =>
    rw [Bool.not_false, if_pos rfl]
    exact ⟨iff_of_true ⟨⟨c.order, rfl, hstatus⟩, nofun⟩ (.inl rfl), rfl⟩
  | true =>
    rw [Bool.not_true, if_neg Bool.false_ne_true]
    obtain ⟨row, hrow⟩ := hstored hrepository
    -- the change sets the status, and it is not a rejection if the state asked for is not, or the exchange was flat
    have hchange : ∀ change : OrderExecutionRow → OrderExecutionRow,
        (∀ r, (change r).orderExecutionId = r.orderExecutionId) →
        (((∃ order, (Except.ok (updateOrder s₁ c.order change).1 : Except PyException OrderExecutionRow) = .ok order ∧
            order.executionStatus ≠ ExchangeOrderState.exchangeRejected.value) ∧
          (true = true → ∀ row, (updateOrder s₁ c.order change).2.order c.order.orderExecutionId = some row →
            row.executionStatus ≠ ExchangeOrderState.exchangeRejected.value)) ↔
          (change row).executionStatus ≠ ExchangeOrderState.exchangeRejected.value) ∧
          (updateOrder s₁ c.order change).2.exchangeOrders = s₁.exchangeOrders := by
      intro change hkey
      obtain ⟨hreturned, hafter, hrecords⟩ := updateOrder_stored change hkey hrow
      rw [hreturned, hafter]
      refine ⟨⟨fun h => ?_, fun hne => ⟨⟨_, rfl, hne⟩, fun _ row' hrow' => ?_⟩⟩, hrecords⟩
      · exact h.2 rfl _ rfl
      · rw [← Option.some.inj hrow']
        exact hne
    by_cases hflat : c.foundFlat e = true
    · rw [if_pos hflat]
      obtain ⟨hiff, hrecords⟩ := hchange (flatOrder c.order) fun _ => rfl
      refine ⟨hiff.trans (iff_of_true ?_ (.inr (.inr hflat))), hrecords⟩
      exact (show "accepted" ≠ ExchangeOrderState.exchangeRejected.value by decide)
    · rw [if_neg hflat]
      obtain ⟨hiff, hrecords⟩ := hchange (failedOrder e c.order) fun _ => rfl
      refine ⟨hiff.trans ⟨fun hne => .inr (.inl fun heq => hne ?_), ?_⟩, hrecords⟩
      · exact congrArg ExchangeOrderState.value heq
      · rintro (hnone | hne | hyes)
        · nomatch hnone
        · exact fun heq => hne (value_eq_rejected heq)
        · exact absurd hyes hflat

end AcknowledgedAux

open AcknowledgedAux

/-- A failure after the gateway took an order leaves it unrejected exactly if the exception spares it. -/
theorem notRejected_iff (finish : GatewayResult → ExecutionStore → Except PyException OrderExecutionRow × ExecutionStore)
    {s s' : ExecutionStore} {c : MirrorCall} {result : GatewayResult} {e : PyException} (hprepared : c.Prepared s)
    (hsubmit : c.submitOrder = .ok result) (hraised : afterSubmission s c result = (.error e, s')) :
    NotRejected s' c e (ensureFromSubmission finish s c) ↔ Spared s' c e := by
  have hrun : ensureFromSubmission finish s c = handleFailure s' c e := by
    unfold ensureFromSubmission
    rw [hsubmit]
    dsimp only
    rw [hraised]
  obtain ⟨horders, hrecord⟩ := afterSubmission_error hprepared hraised
  have hlocal : ∀ s₁ : ExecutionStore, s₁.orders = s'.orders → c.repository = true →
      ∃ row, s₁.order c.order.orderExecutionId = some row := by
    intro s₁ hs₁ hrepository
    obtain ⟨row, hrow⟩ := hprepared.stored hrepository
    refine ⟨row, ?_⟩
    unfold ExecutionStore.order at hrow ⊢
    rw [hs₁, horders]
    exact hrow
  rw [hrun]
  unfold Spared
  cases hid : c.record with
  | none =>
    have hnone : c.recordFailure (alarmed s' e) e = (.ok (), alarmed s' e) := by
      unfold MirrorCall.recordFailure
      rw [hid]
    obtain ⟨hiff, -⟩ := handleFailure_order hnone (hlocal _ rfl) hprepared.status
    dsimp only
    rw [← hiff]
    constructor
    · intro h
      exact ⟨h.returned, h.order⟩
    · intro h
      refine ⟨fun id _ hsome _ => ?_, fun id _ hsome _ => ?_, h.1, h.2⟩
      · rw [hid] at hsome
        nomatch hsome
      · rw [hid] at hsome
        nomatch hsome
  | some id =>
    dsimp only
    obtain ⟨row, hrow, hreached⟩ := hrecord id hid
    have hrow' : (alarmed s' e).exchangeOrder id = some row := hrow
    have hasked : c.recordFailure (alarmed s' e) e = updateExchangeOrder (alarmed s' e) id e.failureState := by
      unfold MirrorCall.recordFailure
      rw [hid]
    have hpermitted := permitted_iff hreached e
    have hcondition : (s'.needsRollback = false ∧ e.failureState ≠ .exchangeRejected ∧
          (e.emergencyCloseFailed = true → ∀ row, s'.exchangeOrder id = some row → row.state = .exchangeSubmitting)) ↔
        s'.needsRollback = false ∧ validateExchangeOrderTransition row.state e.failureState = .ok () ∧
          e.failureState ≠ .exchangeRejected := by
      rw [hpermitted]
      refine and_congr_right fun _ => and_congr_right fun _ => forall_congr' fun _ => ?_
      refine ⟨fun h => h row hrow, fun h row₁ hrow₁ => ?_⟩
      rw [← Option.some.inj (hrow.symm.trans hrow₁)]
      exact h
    rw [hcondition]
    rcases updateExchangeOrder_state e.failureState hrow' with
      ⟨husable, hvalid, s₁, row₁, hupdate, hs₁, hrow₁, hstate⟩ | ⟨hnot, raised, s₁, hupdate⟩
    · obtain ⟨hiff, hrecords⟩ := handleFailure_order (hasked.trans hupdate) (hlocal _ hs₁) hprepared.status
      have hfinal : (handleFailure s' c e).2.exchangeOrder id = some row₁ := by
        unfold ExecutionStore.exchangeOrder
        rw [hrecords]
        exact hrow₁
      constructor
      · intro h
        exact ⟨husable, hvalid, fun heq => h.record id row₁ hid hfinal (hstate.trans heq)⟩
      · rintro ⟨-, -, hne⟩
        obtain ⟨hreturned, hstored⟩ := hiff.mpr (.inr (.inl hne))
        refine ⟨fun id' row' hid' hrow'' => ?_, fun id' row' hid' hrow'' => ?_, hreturned, hstored⟩
        · cases hid.symm.trans hid'
          rw [← Option.some.inj (hrow.symm.trans hrow'')]
          exact hvalid
        · cases hid.symm.trans hid'
          rw [← Option.some.inj (hfinal.symm.trans hrow''), hstate]
          exact hne
    · refine iff_of_false (fun h => ?_) fun h => hnot ⟨h.1, h.2.1⟩
      obtain ⟨order, hok, -⟩ := h.returned
      rw [handleFailure_raises (hasked.trans hupdate)] at hok
      nomatch hok

/-! ## A gateway that cannot refresh the protection -/

namespace AcknowledgedAux

/-- The record of an order that is being submitted, with its local order. -/
def submittingStore : ExecutionStore where
  exchangeOrders := [{ exchangeOrderRecordId := "record-1", exchangeAccount := "binance", state := .exchangeSubmitting }]
  orders := [{ orderExecutionId := "order-1", closeOnlyMode := true, executionStatus := "submitted" }]

/-- A partial close: the gateway takes the order and has no `refresh_protection_orders`. -/
def partialClose : MirrorCall where
  repository := true
  record := some "record-1"
  order := { orderExecutionId := "order-1", closeOnlyMode := true, executionStatus := "submitted" }
  submitOrder := .ok { gatewayOrderId := some "7", gatewayStatus := some "open" }
  refreshProtection := true
  remainingQuantity := .ok 1
  stopPrice := some (.ok 99)
  exchangePositionPresent := true
  record_repository := fun _ => rfl

theorem partialClose_prepared : partialClose.Prepared submittingStore := by
  refine ⟨rfl, fun id hid => ?_, fun _ => ⟨_, rfl⟩, by decide⟩
  cases hid
  exact ⟨_, rfl, rfl⟩

/-- The store after the acknowledgement. -/
def acknowledgedStore : ExecutionStore :=
  { submittingStore with
    exchangeOrders := [{ exchangeOrderRecordId := "record-1", exchangeAccount := "binance", exchangeOrderId := some "7",
                         state := .exchangeAcknowledged }] }

theorem partialClose_raises (result : GatewayResult) (h : partialClose.submitOrder = .ok result) :
    afterSubmission submittingStore partialClose result =
      (.error { text := "gateway_protection_refresh_unsupported" }, acknowledgedStore) := by
  cases h
  rfl

end AcknowledgedAux

/-- An order that the exchange took ends as rejected. -/
theorem notRejected_false :
    ¬∀ (finish : GatewayResult → ExecutionStore → Except PyException OrderExecutionRow × ExecutionStore) (s s' : ExecutionStore)
      (c : MirrorCall) (result : GatewayResult) (e : PyException), c.Prepared s → c.submitOrder = .ok result →
        afterSubmission s c result = (.error e, s') → NotRejected s' c e (ensureFromSubmission finish s c) := by
  intro h
  have hnot := h (fun _ s => (.ok partialClose.order, s)) _ _ _ _ _ partialClose_prepared rfl (partialClose_raises _ rfl)
  obtain ⟨order, hok, hstatus⟩ := hnot.returned
  have hrejected : (ensureFromSubmission (fun _ s => (.ok partialClose.order, s)) submittingStore partialClose).1.map
      (·.executionStatus) = .ok ExchangeOrderState.exchangeRejected.value := by
    decide +kernel
  rw [hok] at hrejected
  exact hstatus (Except.ok.inj hrejected)

/-- The partial close is not spared. -/
theorem notRejected_iff_partialClose :
    ¬NotRejected acknowledgedStore partialClose { text := "gateway_protection_refresh_unsupported" }
      (ensureFromSubmission (fun _ s => (.ok partialClose.order, s)) submittingStore partialClose) := by
  rw [notRejected_iff _ partialClose_prepared rfl (partialClose_raises _ rfl)]
  exact fun hspared => hspared.2.1 (by decide +kernel)

end TradingPlatform
