import Mathlib.Algebra.Order.Field.Basic
import Mathlib.Data.List.Induction
import Mathlib.Tactic.Linarith
import TradingPlatform.Engine.Gatekeeper

/-!
# What the gatekeeper lets through

Submissions run at once and are cut off anywhere: an intent is stored once and sent at most once, and not at all if it was stored
as refused. In exact arithmetic the notionals that the numeric limits admit are an interval, which looser limits widen; where floats
round, its ends are off by the rounding. The halt refuses the entries of a process by its own last command, or by the last command
that reached the store.
-/

namespace TradingPlatform

/-! ## Statements -/

/-- The orders of submissions: each id and each intent is stored once, each order is sent at most once, and only one that was
stored without a code and whose validation was not refused. An approved order reads as rejected only if a duplicate or the refusal
wrote it. -/
structure OrderStore.Once (s : OrderStore) : Prop where
  ids : (s.orders.map OrderExecution.orderExecutionId).Nodup
  identities : ((s.orders.filter fun o => o.identity.keyed).map OrderExecution.identity).Nodup
  sent : (s.sent.map Prod.fst).Nodup
  approved : ∀ x ∈ s.sent, ∃ o ∈ s.orders, o.orderExecutionId = x.1 ∧ o.identity = x.2 ∧ o.rejectionCodes = []
  status : ∀ o ∈ s.orders, o.rejectionCodes = [] → o.executionStatus = "rejected" →
    o.orderExecutionId ∈ s.rewritten ∨ o.orderExecutionId ∈ s.refused
  refused : ∀ id ∈ s.refused, id ∈ s.orders.map OrderExecution.orderExecutionId ∧ id ∉ s.sent.map Prod.fst

namespace GatekeeperAux

variable {s s' : OrderStore} {order result : OrderExecution} {id : String} {f : OrderExecution → OrderExecution}
  {input : SubmissionInput} {broken reduces : Bool}

/-! ## Single writes -/

/-- The order of an id, by what no update of a status touches. -/
def StoredAs (s : OrderStore) (id : String) (identity : IntentIdentity) (codes : List String) : Prop :=
  ∃ o ∈ s.orders, o.orderExecutionId = id ∧ o.identity = identity ∧ o.rejectionCodes = codes

/-- An update of a status or of the gateway's columns. -/
structure Gentle (f : OrderExecution → OrderExecution) : Prop where
  id : ∀ o, (f o).orderExecutionId = o.orderExecutionId
  identity : ∀ o, (f o).identity = o.identity
  codes : ∀ o, (f o).rejectionCodes = o.rejectionCodes

theorem gentle_status (status : String) : Gentle fun o => { o with executionStatus := status } :=
  ⟨fun _ => rfl, fun _ => rfl, fun _ => rfl⟩

theorem gentle_gateway (gatewayOrderId gatewayStatus : Option String) :
    Gentle fun o => { o with gatewayOrderId, gatewayStatus } := ⟨fun _ => rfl, fun _ => rfl, fun _ => rfl⟩

theorem mem_updateOrder {o : OrderExecution} (h : o ∈ (s.updateOrder id f).orders) :
    ∃ o' ∈ s.orders, (o'.orderExecutionId = id ∧ o = f o') ∨ (o'.orderExecutionId ≠ id ∧ o = o') := by
  obtain ⟨o', ho', rfl⟩ := Table.mem_modify.mp h
  refine ⟨o', ho', ?_⟩
  by_cases hid : o'.orderExecutionId = id
  · exact .inl ⟨hid, if_pos hid⟩
  · exact .inr ⟨hid, if_neg hid⟩

theorem storedAs_updateOrder (hf : Gentle f) {k : String} {identity : IntentIdentity} {codes : List String}
    (h : StoredAs s k identity codes) : StoredAs (s.updateOrder id f) k identity codes := by
  obtain ⟨o, ho, hid, hidentity, hcodes⟩ := h
  refine ⟨if o.orderExecutionId = id then f o else o, Table.mem_modify.mpr ⟨o, ho, rfl⟩, ?_⟩
  split
  · exact ⟨(hf.id o).trans hid, (hf.identity o).trans hidentity, (hf.codes o).trans hcodes⟩
  · exact ⟨hid, hidentity, hcodes⟩

theorem identities_updateOrder (hf : ∀ o, (f o).identity = o.identity) :
    ((s.updateOrder id f).orders.filter fun o => o.identity.keyed).map OrderExecution.identity =
      (s.orders.filter fun o => o.identity.keyed).map OrderExecution.identity := by
  have hmapped : ∀ l : List OrderExecution, (l.filter fun o => o.identity.keyed).map OrderExecution.identity =
      (l.map OrderExecution.identity).filter IntentIdentity.keyed := by
    intro l
    rw [List.filter_map]
    rfl
  rw [hmapped, hmapped]
  exact congrArg _ (Table.map_modify hf)

theorem once_updateOrder (h : s.Once) (hf : Gentle f) (rewritten : List String) (hrewritten : ∀ x ∈ s.rewritten, x ∈ rewritten)
    (hstatus : ∀ o ∈ s.orders, o.orderExecutionId = id → o.rejectionCodes = [] → (f o).executionStatus = "rejected" →
      id ∈ rewritten ∨ id ∈ s.refused) : ({ s.updateOrder id f with rewritten } : OrderStore).Once := by
  have hids : (s.updateOrder id f).orders.map OrderExecution.orderExecutionId = s.orders.map OrderExecution.orderExecutionId :=
    Table.map_modify hf.id
  constructor
  · exact hids.symm ▸ h.ids
  · have hidentities : ((s.updateOrder id f).orders.filter fun o => o.identity.keyed).map OrderExecution.identity =
        (s.orders.filter fun o => o.identity.keyed).map OrderExecution.identity := identities_updateOrder hf.identity
    exact hidentities.symm ▸ h.identities
  · exact h.sent
  · intro x hx
    exact storedAs_updateOrder hf (h.approved x hx)
  · intro o ho hcodes hrejected
    obtain ⟨o', ho', ⟨hid, rfl⟩ | ⟨-, rfl⟩⟩ := mem_updateOrder ho
    · rw [hf.id, hid]
      exact hstatus o' ho' hid ((hf.codes o') ▸ hcodes) hrejected
    · exact (h.status o ho' hcodes hrejected).imp_left (hrewritten _)
  · exact fun k hk => ⟨hids.symm ▸ (h.refused k hk).1, (h.refused k hk).2⟩

theorem admits_spec (h : s.admits order broken = true) {o : OrderExecution} (ho : o ∈ s.orders) :
    o.orderExecutionId ≠ order.orderExecutionId ∧ (order.identity.keyed = true → o.identity ≠ order.identity) :=
  of_decide_eq_true (List.all_eq_true.mp (Bool.and_eq_true_iff.mp h).2 o ho)

theorem once_insert (h : s.Once) (hadmits : s.admits order broken = true)
    (hstatus : order.rejectionCodes = [] → order.executionStatus ≠ "rejected") :
    ({ s with orders := s.orders ++ [order] } : OrderStore).Once := by
  constructor
  · rw [List.map_append, List.nodup_append]
    refine ⟨h.ids, List.nodup_singleton _, fun x hx y hy heq => ?_⟩
    obtain ⟨o, ho, rfl⟩ := List.mem_map.mp hx
    rw [List.map_singleton, List.mem_singleton] at hy
    exact (admits_spec hadmits ho).1 (heq.trans hy)
  · rw [List.filter_append, List.map_append, List.nodup_append]
    refine ⟨h.identities, ?_, fun x hx y hy heq => ?_⟩
    · cases hkeyed : order.identity.keyed <;> simp [hkeyed]
    · obtain ⟨o, ho, rfl⟩ := List.mem_map.mp hx
      obtain ⟨o', ho', rfl⟩ := List.mem_map.mp hy
      obtain ⟨hmem, hkeyed⟩ := List.mem_filter.mp ho'
      rw [List.mem_singleton] at hmem
      subst hmem
      exact (admits_spec hadmits (List.mem_filter.mp ho).1).2 hkeyed heq
  · exact h.sent
  · intro x hx
    obtain ⟨o, ho, hrest⟩ := h.approved x hx
    exact ⟨o, List.mem_append_left _ ho, hrest⟩
  · intro o ho hcodes hrejected
    rcases List.mem_append.mp ho with ho | ho
    · exact h.status o ho hcodes hrejected
    · rw [List.mem_singleton] at ho
      subst ho
      exact absurd hrejected (hstatus hcodes)
  · intro k hk
    rw [List.map_append]
    exact ⟨List.mem_append_left _ (h.refused k hk).1, (h.refused k hk).2⟩

theorem once_sent (h : s.Once) (hstored : StoredAs s result.orderExecutionId result.identity [])
    (hfresh : result.orderExecutionId ∉ s.sent.map Prod.fst) (hadmitted : result.orderExecutionId ∉ s.refused) :
    ({ s with sent := s.sent ++ [(result.orderExecutionId, result.identity)] } : OrderStore).Once := by
  constructor
  · exact h.ids
  · exact h.identities
  · rw [List.map_append, List.nodup_append]
    refine ⟨h.sent, List.nodup_singleton _, fun x hx y hy heq => ?_⟩
    rw [List.map_singleton, List.mem_singleton] at hy
    rw [heq, hy] at hx
    exact hfresh hx
  · intro x hx
    rcases List.mem_append.mp hx with hx | hx
    · exact h.approved x hx
    · rw [List.mem_singleton] at hx
      subst hx
      exact hstored
  · exact h.status
  · intro k hk
    refine ⟨(h.refused k hk).1, fun hmem => ?_⟩
    rw [List.map_append, List.map_singleton, List.mem_append, List.mem_singleton] at hmem
    rcases hmem with hmem | rfl
    · exact (h.refused k hk).2 hmem
    · exact hadmitted hk

/-- An update of one order leaves what was stored of the others. -/
theorem storedAs_updateOrder_other {k : String} {identity : IntentIdentity} {codes : List String}
    (h : StoredAs s k identity codes) (hk : k ≠ id) : StoredAs (s.updateOrder id f) k identity codes := by
  obtain ⟨o, ho, hid, hrest⟩ := h
  refine ⟨o, Table.mem_modify.mpr ⟨o, ho, if_neg ?_⟩, hid, hrest⟩
  rw [hid]
  exact hk

/-- The refusal of an order that was not sent. -/
theorem once_refused (h : s.Once) (hstored : StoredAs s id result.identity []) (hfresh : id ∉ s.sent.map Prod.fst)
    (hid : ∀ o, (f o).orderExecutionId = o.orderExecutionId) (hidentity : ∀ o, (f o).identity = o.identity) :
    ({ s.updateOrder id f with refused := s.refused ++ [id] } : OrderStore).Once := by
  have hids : (s.updateOrder id f).orders.map OrderExecution.orderExecutionId = s.orders.map OrderExecution.orderExecutionId :=
    Table.map_modify hid
  constructor
  · exact hids.symm ▸ h.ids
  · have hidentities : ((s.updateOrder id f).orders.filter fun o => o.identity.keyed).map OrderExecution.identity =
        (s.orders.filter fun o => o.identity.keyed).map OrderExecution.identity := identities_updateOrder hidentity
    exact hidentities.symm ▸ h.identities
  · exact h.sent
  · intro x hx
    exact storedAs_updateOrder_other (h.approved x hx) fun heq => hfresh (heq ▸ List.mem_map_of_mem hx)
  · intro o ho hcodes hrejected
    obtain ⟨o', ho', ⟨hid', rfl⟩ | ⟨-, rfl⟩⟩ := mem_updateOrder ho
    · rw [hid, hid']
      exact .inr List.mem_concat_self
    · exact (h.status o ho' hcodes hrejected).imp_right (List.mem_append_left _)
  · intro k hk
    rcases List.mem_append.mp hk with hk | hk
    · exact ⟨hids.symm ▸ (h.refused k hk).1, (h.refused k hk).2⟩
    · obtain ⟨o, ho, hoid, -⟩ := hstored
      rw [List.mem_singleton.mp hk]
      exact ⟨hids.symm ▸ hoid ▸ List.mem_map_of_mem ho, hfresh⟩

/-! ## Calls -/

/-- An order as its gate left it. -/
def Formed (order : OrderExecution) (reduces : Bool) : Prop :=
  order.executionStatus = if order.rejectionCodes = [] then (if reduces then "PRETRADE_APPROVED" else "accepted")
    else if reduces then "PRETRADE_REJECTED" else "rejected"

/-- An order that is stored without a code and was neither sent nor refused. -/
structure Sendable (s : OrderStore) (result : OrderExecution) : Prop where
  stored : StoredAs s result.orderExecutionId result.identity []
  fresh : result.orderExecutionId ∉ s.sent.map Prod.fst
  admitted : result.orderExecutionId ∉ s.refused

/-- What a call knows of the store. -/
def Placed (call : LiveSubmission) (s : OrderStore) : Prop :=
  match call with
  | .submit _ => True
  | .find order reduces => Formed order reduces
  | .insert order reduces => Formed order reduces
  | .refind order reduces => Formed order reduces
  | .settle result =>
    (result.executionStatus = "PRETRADE_APPROVED" ∧ Sendable s result) ∨ result.executionStatus = "duplicate_skipped" ∨
      (result.executionStatus = "PRETRADE_REJECTED" ∧ ∃ identity codes, codes ≠ [] ∧
        StoredAs s result.orderExecutionId identity codes)
  | .send result => Sendable s result
  | .record _ _ _ => True

/-- The order that a call alone may send. -/
@[grind =] def owned : LiveSubmission → Option String
  | .settle result => if result.executionStatus = "PRETRADE_APPROVED" then some result.orderExecutionId else none
  | .send result => some result.orderExecutionId
  | _ => none

theorem formed_entryOrder (r : ExecutionOrderRequest) (settings : GateSettings) (facts : GateFacts) (uuid : String) :
    Formed (r.entryOrder settings facts uuid) false := by
  simp [Formed, ExecutionOrderRequest.entryOrder]

theorem formed_exitOrder (r : ExecutionOrderRequest) (uuid : String) : Formed (r.exitOrder uuid) true := by
  simp [Formed, ExecutionOrderRequest.exitOrder]

/-- An answer for a stored identity is not sent: it is not accepted. -/
theorem answered_duplicate {t : LiveSubmission} (h : LiveSubmission.answered order.duplicate reduces = some t) :
    reduces = true ∧ t = .settle order.duplicate := by
  cases reduces with
  | true => exact ⟨rfl, (Option.some.inj h).symm⟩
  | false => simp [LiveSubmission.answered, OrderExecution.duplicate] at h

/-- How the call goes on whose order was inserted. -/
theorem answered_created {t : LiveSubmission} (hformed : Formed order reduces)
    (h : LiveSubmission.answered order reduces = some t) :
    (order.rejectionCodes = [] ∧ owned t = some order.orderExecutionId ∧ (t = .settle order ∨ t = .send order) ∧
      (t = .settle order → order.executionStatus = "PRETRADE_APPROVED")) ∨
    (order.rejectionCodes ≠ [] ∧ t = .settle order ∧ order.executionStatus = "PRETRADE_REJECTED") := by
  unfold Formed at hformed
  cases reduces with
  | true =>
    have ht : t = .settle order := (Option.some.inj h).symm
    subst ht
    by_cases hcodes : order.rejectionCodes = []
    · rw [if_pos hcodes] at hformed
      simp only [if_true] at hformed
      exact .inl ⟨hcodes, by simp [owned, hformed], .inl rfl, fun _ => hformed⟩
    · rw [if_neg hcodes] at hformed
      exact .inr ⟨hcodes, rfl, by simpa using hformed⟩
  | false =>
    by_cases hcodes : order.rejectionCodes = []
    · rw [if_pos hcodes] at hformed
      simp only [Bool.false_eq_true, if_false] at hformed
      simp only [LiveSubmission.answered, Bool.false_eq_true, if_false, hformed, if_true] at h
      have ht : t = .send order := (Option.some.inj h).symm
      subst ht
      exact .inl ⟨hcodes, rfl, .inr rfl, fun heq => by cases heq⟩
    · rw [if_neg hcodes] at hformed
      simp [LiveSubmission.answered, hformed] at h

theorem compatibilityStatus_accepted {status : String} (h : compatibilityStatus status = "accepted") :
    status = "PRETRADE_APPROVED" := by
  unfold compatibilityStatus at h
  split at h
  · assumption
  · simp at h

/-- A statement keeps every order as it was stored, but for the one whose validation it refuses. -/
theorem next_storedAs (input : SubmissionInput) (call : LiveSubmission) {identity : IntentIdentity} {codes : List String}
    (h : StoredAs s id identity codes) (hother : ∀ result, call = .send result → id ≠ result.orderExecutionId) :
    StoredAs (call.next input s).2 id identity codes := by
  cases call with
  | submit r => exact h
  | find order reduces =>
    simp only [LiveSubmission.next]
    split <;> exact h
  | insert order reduces =>
    simp only [LiveSubmission.next]
    split
    · obtain ⟨o, ho, hrest⟩ := h
      exact ⟨o, List.mem_append_left _ ho, hrest⟩
    · exact h
  | refind order reduces =>
    simp only [LiveSubmission.next]
    split <;> exact h
  | settle result => exact storedAs_updateOrder (gentle_status _) h
  | send result =>
    simp only [LiveSubmission.next]
    split
    · exact h
    · exact h
    · exact storedAs_updateOrder_other h (hother result rfl)
  | record result gatewayOrderId gatewayStatus => exact storedAs_updateOrder (gentle_gateway _ _) h

/-- What a statement sends or refuses is what its call owns. -/
theorem next_sent (input : SubmissionInput) (call : LiveSubmission) (s : OrderStore) :
    ((call.next input s).2.sent = s.sent ∧ (call.next input s).2.refused = s.refused) ∨ ∃ result, call = .send result ∧
      (call.next input s).2.sent ⊆ s.sent ++ [(result.orderExecutionId, result.identity)] ∧
      (call.next input s).2.refused ⊆ s.refused ++ [result.orderExecutionId] := by
  cases call with
  | submit r => exact .inl ⟨rfl, rfl⟩
  | find order reduces =>
    simp only [LiveSubmission.next]
    split <;> exact .inl ⟨rfl, rfl⟩
  | insert order reduces =>
    simp only [LiveSubmission.next]
    split <;> exact .inl ⟨rfl, rfl⟩
  | refind order reduces =>
    simp only [LiveSubmission.next]
    split <;> exact .inl ⟨rfl, rfl⟩
  | settle result => exact .inl ⟨rfl, rfl⟩
  | send result =>
    simp only [LiveSubmission.next]
    split
    · exact .inr ⟨result, rfl, List.Subset.refl _, List.subset_append_left _ _⟩
    · exact .inl ⟨rfl, rfl⟩
    · exact .inr ⟨result, rfl, List.subset_append_left _ _, List.Subset.refl _⟩
  | record result gatewayOrderId gatewayStatus => exact .inl ⟨rfl, rfl⟩

theorem next_once (h : s.Once) {call : LiveSubmission} (hplaced : Placed call s) : (call.next input s).2.Once := by
  cases call with
  | submit r => exact h
  | find order reduces =>
    simp only [LiveSubmission.next]
    split <;> exact h
  | insert order reduces =>
    simp only [LiveSubmission.next]
    split
    · rename_i hadmits
      refine once_insert h hadmits fun hcodes => ?_
      have hformed : Formed order reduces := hplaced
      unfold Formed at hformed
      rw [if_pos hcodes] at hformed
      rw [hformed]
      cases reduces <;> simp
    · exact h
  | refind order reduces =>
    simp only [LiveSubmission.next]
    split <;> exact h
  | settle result =>
    refine once_updateOrder h (gentle_status _) _ (fun x hx => ?_) fun o ho hid hcodes hrejected => ?_
    · split
      · exact List.mem_append_left _ hx
      · exact hx
    · rcases hplaced with ⟨happroved, -⟩ | hduplicate | ⟨-, identity, codes, hne, o', ho', hid', -, hcodes'⟩
      · rw [happroved] at hrejected
        simp [compatibilityStatus] at hrejected
      · rw [if_pos hduplicate]
        exact .inl List.mem_concat_self
      · have hsame := List.inj_on_of_nodup_map h.ids ho ho' (hid.trans hid'.symm)
        rw [hsame, hcodes'] at hcodes
        exact absurd hcodes hne
  | send result =>
    obtain ⟨hstored, hfresh, hadmitted⟩ : Sendable s result := hplaced
    simp only [LiveSubmission.next]
    split
    · exact once_sent h hstored hfresh hadmitted
    · exact h
    · exact once_refused h hstored hfresh (fun _ => rfl) fun _ => rfl
  | record result gatewayOrderId gatewayStatus =>
    refine once_updateOrder h (gentle_gateway _ _) s.rewritten (fun x hx => hx) fun o ho hid hcodes hrejected => ?_
    rw [← hid]
    exact h.status o ho hcodes hrejected

/-- A new order is not among those that were sent. -/
theorem sendable_insert (h : s.Once) (hadmits : s.admits order broken = true) (hcodes : order.rejectionCodes = []) :
    Sendable { s with orders := s.orders ++ [order] } order := by
  refine ⟨⟨order, List.mem_concat_self, rfl, rfl, hcodes⟩, fun hmem => ?_, fun hmem => ?_⟩
  · obtain ⟨x, hx, hid⟩ := List.mem_map.mp hmem
    obtain ⟨o, ho, hoid, -⟩ := h.approved x hx
    exact (admits_spec hadmits ho).1 (hoid.trans hid)
  · obtain ⟨o, ho, hid⟩ := List.mem_map.mp (h.refused _ hmem).1
    exact (admits_spec hadmits ho).1 hid

theorem next_call (h : s.Once) {call call' : LiveSubmission} (hplaced : Placed call s)
    (hnext : (call.next input s).1 = some call') : Placed call' (call.next input s).2 := by
  cases call with
  | submit r =>
    simp only [LiveSubmission.next, Option.some.injEq] at hnext
    subst hnext
    split
    · exact formed_exitOrder r _
    · exact formed_entryOrder r _ _ _
  | find order reduces =>
    simp only [LiveSubmission.next] at hnext ⊢
    split at hnext
    · obtain ⟨-, rfl⟩ := answered_duplicate hnext
      exact .inr (.inl rfl)
    · cases hnext
      exact hplaced
  | insert order reduces =>
    simp only [LiveSubmission.next] at hnext ⊢
    split at hnext
    · rename_i hadmits
      rw [if_pos hadmits]
      have hmem : order ∈ s.orders ++ [order] := List.mem_concat_self
      rcases answered_created hplaced hnext with ⟨hcodes, -, rfl | rfl, hstatus⟩ | ⟨hcodes, rfl, hstatus⟩
      · exact .inl ⟨hstatus rfl, sendable_insert h hadmits hcodes⟩
      · exact sendable_insert h hadmits hcodes
      · exact .inr (.inr ⟨hstatus, order.identity, _, hcodes, order, hmem, rfl, rfl, rfl⟩)
    · cases hnext
      exact hplaced
  | refind order reduces =>
    simp only [LiveSubmission.next] at hnext ⊢
    split at hnext
    · obtain ⟨-, rfl⟩ := answered_duplicate hnext
      exact .inr (.inl rfl)
    · cases hnext
  | settle result =>
    have hstored : ∀ identity codes, StoredAs s result.orderExecutionId identity codes →
        StoredAs ((LiveSubmission.settle result).next input s).2 result.orderExecutionId identity codes :=
      fun _ _ h => next_storedAs input (.settle result) h fun _ heq => by cases heq
    simp only [LiveSubmission.next] at hnext hstored ⊢
    split at hnext
    · rename_i haccepted
      cases hnext
      have happroved := compatibilityStatus_accepted haccepted
      rcases hplaced with ⟨-, hsendable⟩ | hduplicate | ⟨hrejected, -⟩
      · exact ⟨hstored _ _ hsendable.stored, hsendable.fresh, hsendable.admitted⟩
      · rw [hduplicate] at happroved
        simp at happroved
      · rw [hrejected] at happroved
        simp at happroved
    · cases hnext
  | send result =>
    simp only [LiveSubmission.next] at hnext
    split at hnext
    · obtain ⟨answer, -, rfl⟩ := Option.map_eq_some_iff.mp hnext
      exact trivial
    · cases hnext
    · cases hnext
  | record result gatewayOrderId gatewayStatus => cases hnext

/-- Only a call whose order was just stored takes one. -/
theorem next_takes {call call' : LiveSubmission} {k : String} (hplaced : Placed call s)
    (hnext : (call.next input s).1 = some call') (howned : owned call' = some k) :
    owned call = some k ∨ ∀ other, Placed other s → owned other ≠ some k := by
  cases call with
  | submit r =>
    simp only [LiveSubmission.next, Option.some.injEq] at hnext
    subst hnext
    split at howned <;> cases howned
  | find order reduces =>
    simp only [LiveSubmission.next] at hnext
    split at hnext
    · obtain ⟨-, rfl⟩ := answered_duplicate hnext
      simp [owned, OrderExecution.duplicate] at howned
    · cases hnext
      cases howned
  | insert order reduces =>
    simp only [LiveSubmission.next] at hnext
    split at hnext
    · rename_i hadmits
      have hk : k = order.orderExecutionId := by
        rcases answered_created hplaced hnext with ⟨-, howned', -⟩ | ⟨-, rfl, hstatus⟩
        · exact Option.some.inj (howned.symm.trans howned')
        · simp [owned, hstatus] at howned
      refine .inr fun other hother heq => ?_
      have hstored : ∃ identity, StoredAs s k identity [] := by
        cases other with
        | settle result =>
          rcases hother with ⟨hstatus, hsendable⟩ | hstatus | ⟨hstatus, -⟩
          · simp only [owned, hstatus, if_true, Option.some.injEq] at heq
            exact ⟨_, heq ▸ hsendable.1⟩
          · simp [owned, hstatus] at heq
          · simp [owned, hstatus] at heq
        | send result => exact ⟨_, Option.some.inj heq ▸ hother.1⟩
        | _ => cases heq
      obtain ⟨-, o, ho, hid, -⟩ := hstored
      exact (admits_spec hadmits ho).1 (hid.trans hk)
    · cases hnext
      cases howned
  | refind order reduces =>
    simp only [LiveSubmission.next] at hnext
    split at hnext
    · obtain ⟨-, rfl⟩ := answered_duplicate hnext
      simp [owned, OrderExecution.duplicate] at howned
    · cases hnext
  | settle result =>
    simp only [LiveSubmission.next] at hnext
    split at hnext
    · rename_i haccepted
      cases hnext
      left
      simpa [owned, compatibilityStatus_accepted haccepted] using howned
    · cases hnext
  | send result =>
    simp only [LiveSubmission.next] at hnext
    split at hnext
    · obtain ⟨answer, -, rfl⟩ := Option.map_eq_some_iff.mp hnext
      cases howned
    · cases hnext
    · cases hnext
  | record result gatewayOrderId gatewayStatus => cases hnext

/-- What another call may send, it may send after a statement of this one. -/
theorem next_sendable {call : LiveSubmission} {result : OrderExecution} (h : Sendable s result)
    (hapart : owned call ≠ some result.orderExecutionId) : Sendable (call.next input s).2 result := by
  have hstored := next_storedAs input call h.stored fun other heq hid => hapart (by rw [heq, hid]; rfl)
  rcases next_sent input call s with ⟨hsent, hrefused⟩ | ⟨other, rfl, hsent, hrefused⟩
  · exact ⟨hstored, hsent ▸ h.fresh, hrefused ▸ h.admitted⟩
  · have hne : result.orderExecutionId ≠ other.orderExecutionId := fun heq => hapart (congrArg some heq.symm)
    refine ⟨hstored, fun hmem => ?_, fun hmem => ?_⟩
    · obtain ⟨x, hx, hid⟩ := List.mem_map.mp hmem
      rcases List.mem_append.mp (hsent hx) with hx | hx
      · exact h.fresh (hid ▸ List.mem_map_of_mem hx)
      · exact hne (hid.symm.trans (congrArg Prod.fst (List.mem_singleton.mp hx)))
    · rcases List.mem_append.mp (hrefused hmem) with hmem | hmem
      · exact h.admitted hmem
      · exact hne (List.mem_singleton.mp hmem)

theorem next_other {call other : LiveSubmission} (h : s.Once) (hcall : Placed call s) (hplaced : Placed other s)
    (hapart : ∀ k, owned call = some k → owned other ≠ some k) : Placed other (call.next input s).2 := by
  cases other with
  | settle result =>
    rcases hplaced with ⟨hstatus, hsendable⟩ | hstatus | ⟨hstatus, identity, codes, hne, hstored⟩
    · refine .inl ⟨hstatus, next_sendable hsendable fun heq => hapart _ heq ?_⟩
      simp [owned, hstatus]
    · exact .inr (.inl hstatus)
    · refine .inr (.inr ⟨hstatus, identity, codes, hne, next_storedAs input call hstored fun sending heq hid => ?_⟩)
      -- the order of a call that sends was stored without a code
      subst heq
      obtain ⟨⟨o, ho, hoid, -, hnone⟩, -⟩ : Sendable s sending := hcall
      obtain ⟨o', ho', hoid', -, hcodes⟩ := hstored
      have hsame := List.inj_on_of_nodup_map h.ids ho ho' (hoid.trans (hid.symm.trans hoid'.symm))
      exact hne (hcodes.symm.trans (hsame ▸ hnone))
  | send result => exact next_sendable hplaced fun heq => hapart _ heq rfl
  | _ => exact hplaced

theorem keepsApart_next : Sessions.KeepsApart LiveSubmission.next LiveSubmission.Starts OrderStore.Once Placed owned := by
  constructor
  · intro s t _ hstarts
    cases t with
    | submit r => exact ⟨trivial, rfl⟩
    | _ => exact absurd hstarts id
  · exact fun input t s h hplaced => next_once h hplaced
  · exact fun input t s t' h hplaced hnext => next_call h hplaced hnext
  · exact fun input t s t' k _ hplaced hnext howned => next_takes hplaced hnext howned
  · exact fun input t s u h hcall hplaced hapart => next_other h hcall hplaced hapart

theorem once_empty : ({} : OrderStore).Once := by
  constructor <;> simp

/-- Members of a list that are all the same one. -/
theorem length_le_one {α : Type} {l : List α} (hnd : l.Nodup) (h : ∀ x ∈ l, ∀ y ∈ l, x = y) : l.length ≤ 1 := by
  cases l with
  | nil => exact Nat.zero_le _
  | cons x l =>
    cases l with
    | nil => exact le_refl 1
    | cons y l =>
      have heq := h x List.mem_cons_self y (List.mem_cons_of_mem _ List.mem_cons_self)
      rw [heq] at hnd
      exact absurd List.mem_cons_self (List.nodup_cons.mp hnd).1

/-- One order has an identity. -/
theorem Once.eq_of_identity (h : s.Once) {o o' : OrderExecution} (ho : o ∈ s.orders) (ho' : o' ∈ s.orders)
    (hkeyed : o.identity.keyed = true) (heq : o.identity = o'.identity) : o = o' := by
  refine List.inj_on_of_nodup_map h.identities (List.mem_filter.mpr ⟨ho, hkeyed⟩) (List.mem_filter.mpr ⟨ho', ?_⟩) heq
  rw [← heq]
  exact hkeyed

end GatekeeperAux

open GatekeeperAux

/-- In any order of the statements of submissions, an intent is stored once and sent at most once, and it is not sent if it was
stored with a code. -/
theorem submission_once {ops : List (Sessions.Op LiveSubmission SubmissionInput)}
    (hops : Sessions.Begins LiveSubmission.Starts ops) :
    (({} : OrderStore).runSubmissions ops).Once ∧ ∀ k : IntentIdentity, k.keyed = true →
      ((({} : OrderStore).runSubmissions ops).sent.filter fun x => decide (x.2 = k)).length ≤ 1 ∧
      ∀ o ∈ (({} : OrderStore).runSubmissions ops).orders, o.identity = k → o.rejectionCodes ≠ [] →
        ∀ x ∈ (({} : OrderStore).runSubmissions ops).sent, x.2 ≠ k := by
  have hstart : Sessions.Holds OrderStore.Once Placed ({ stored := {} } : Sessions.World OrderStore LiveSubmission) :=
    ⟨once_empty, fun call t ht => by cases ht⟩
  have honce : (({} : OrderStore).runSubmissions ops).Once :=
    (keepsApart_next.run hstart (fun c c' t t' k _ ht => by cases ht) hops).1.1
  refine ⟨honce, fun k hk => ⟨?_, fun o ho hidentity hcodes x hx hxk => ?_⟩⟩
  · refine length_le_one (List.Nodup.filter _ (List.Nodup.of_map _ honce.sent)) fun x hx y hy => ?_
    obtain ⟨hx, hxk⟩ := List.mem_filter.mp hx
    obtain ⟨hy, hyk⟩ := List.mem_filter.mp hy
    obtain ⟨o, ho, hid, hidentity, -⟩ := honce.approved x hx
    obtain ⟨o', ho', hid', hidentity', -⟩ := honce.approved y hy
    have hok : o.identity = k := hidentity.trans (of_decide_eq_true hxk)
    have hok' : o'.identity = k := hidentity'.trans (of_decide_eq_true hyk)
    have hsame := Once.eq_of_identity honce ho ho' (hok ▸ hk) (hok.trans hok'.symm)
    exact List.inj_on_of_nodup_map honce.sent hx hy (by rw [← hid, ← hid', hsame])
  · obtain ⟨o', ho', -, hidentity', hcodes'⟩ := honce.approved x hx
    have hsame := Once.eq_of_identity honce ho ho' (hidentity ▸ hk) (hidentity.trans (hidentity'.trans hxk).symm)
    rw [hsame, hcodes'] at hcodes
    exact hcodes rfl

namespace GatekeeperAux

def sampleGateEntry : ExecutionOrderRequest where
  strategyId := "strategy"
  symbol := "BTC/USDT"
  direction := .long
  entryContext := { isHedgeLeg := true }
  stoplossPlan := ["price"]
  validationBacktestRunId := some "run-1"
  riskState := some { accountEquity := 1000, equityPeak := 1000, requestedNotional := 50 }
  tradeIntent := some ⟨"OPEN", 1000⟩

def sampleInput (uuid : String) : SubmissionInput where
  settings := { binanceUseTestnet := true, binanceAutoExecute := true, liveTradingEnabled := false, executionScopeHash := "scope" }
  facts := { backtest := some (some true) }
  uuid := uuid
  gateway := some (some "exchange-1", some "filled")

/-- Two submissions of one entry: both look for it before either stores it. -/
def sampleSubmissions : List (Sessions.Op LiveSubmission SubmissionInput) :=
  [.start 0 (.submit sampleGateEntry), .start 1 (.submit sampleGateEntry), .advance 0 (sampleInput "order-1"),
    .advance 1 (sampleInput "order-2"), .advance 0 (sampleInput ""), .advance 1 (sampleInput ""), .advance 0 (sampleInput ""),
    .advance 1 (sampleInput ""), .advance 0 (sampleInput ""), .advance 1 (sampleInput ""), .advance 1 (sampleInput ""),
    .advance 0 (sampleInput ""), .advance 0 (sampleInput "")]

theorem sampleSubmissions_begins : Sessions.Begins LiveSubmission.Starts sampleSubmissions := by
  simp [sampleSubmissions, LiveSubmission.Starts]

end GatekeeperAux

/-- Of two submissions of one entry one is sent. -/
theorem submission_once_twoAtOnce :
    (({} : OrderStore).runSubmissions sampleSubmissions).sent.map Prod.fst = ["order-1"] ∧
      (({} : OrderStore).runSubmissions sampleSubmissions).Once :=
  ⟨by decide +kernel, (submission_once sampleSubmissions_begins).1⟩

/-! ## Limits -/

/-- Limits none of which is tighter. -/
structure RiskProfile.Looser (p q : RiskProfile) : Prop where
  singleTradeRisk : p.singleTradeRiskLimit ≤ q.singleTradeRiskLimit
  symbolExposure : p.maxSymbolExposure ≤ q.maxSymbolExposure
  totalExposure : p.maxTotalExposure ≤ q.maxTotalExposure
  openPositions : p.maxOpenPositions ≤ q.maxOpenPositions
  leverage : p.maxLeverage ≤ q.maxLeverage
  dailyLoss : p.dailyLossLimit ≤ q.dailyLossLimit
  weeklyLoss : p.weeklyLossLimit ≤ q.weeklyLossLimit
  drawdown : p.drawdownLimit ≤ q.drawdownLimit
  hardStopDrawdown : p.hardStopDrawdownLimit ≤ q.hardStopDrawdownLimit
  consecutiveLoss : p.consecutiveLossLimit ≤ q.consecutiveLossLimit
  apiFailure : p.apiFailureLimit ≤ q.apiFailureLimit

/-- What the limits ask of an account whatever the notional. -/
structure RiskProfile.Bears (p : RiskProfile) (c : EntryContext) (st : ExecutionRiskState) : Prop where
  equity : 0 < st.accountEquity
  peak : 0 < st.equityPeak
  correlation : st.portfolioCorrelationAvailable = true
  peers : st.highCorrelationPeerCount < c.correlatedPeerCountLimit
  openPositions : st.openPositions < p.maxOpenPositions
  leverage : st.requestedLeverage ≤ p.maxLeverage
  stopRisk : st.requestedStopRiskFraction ≤ p.singleTradeRiskLimit
  portfolioRisk : st.portfolioInitialRiskFraction + st.requestedStopRiskFraction ≤ c.maxPortfolioInitialRiskFraction
  dailyLoss : |min st.dailyRealizedPnl 0| < st.accountEquity * p.dailyLossLimit
  weeklyLoss : |min st.weeklyRealizedPnl 0| < st.accountEquity * p.weeklyLossLimit
  hardStopDrawdown : st.drawdown < p.hardStopDrawdownLimit
  drawdown : st.drawdown < p.drawdownLimit
  losses : st.consecutiveLosses < p.consecutiveLossLimit
  failures : st.apiFailuresWindow < p.apiFailureLimit

/-- The request for another notional. -/
def ExecutionOrderRequest.asking (r : ExecutionOrderRequest) (notional : ℚ) : ExecutionOrderRequest :=
  { r with riskState := r.riskState.map fun st => { st with requestedNotional := notional } }

/-- The net exposure in the direction of a request. -/
def ExecutionRiskState.netToward (st : ExecutionRiskState) : Direction → ℚ
  | .long => st.netDirectionalExposure
  | .short => -st.netDirectionalExposure

/-- The largest notional that the limits admit: the share of the equity that the tightest of the bounds of the symbol, the total, the
cluster, the net direction and the martingale leaves. -/
def ExecutionOrderRequest.capacity (r : ExecutionOrderRequest) (p : RiskProfile) (st : ExecutionRiskState) : ℚ :=
  let c := r.entryContext
  st.accountEquity * List.foldr min (p.maxSymbolExposure - st.symbolExposure)
    ([p.maxTotalExposure - st.totalExposure, c.correlatedClusterExposureLimit - st.correlatedClusterExposure] ++
      (if c.isHedgeLeg then [] else [c.netDirectionalExposureLimit - st.netToward r.direction]) ++
      (if 0 < st.consecutiveLosses ∧ 0 < st.symbolExposure then [st.symbolExposure * 2] else []))

/-- The least notional that the limits admit: what brings the exposure of the other side back to its limit. -/
def ExecutionOrderRequest.AboveFloor (r : ExecutionOrderRequest) (st : ExecutionRiskState) (notional : ℚ) : Prop :=
  r.entryContext.isHedgeLeg = false →
    st.accountEquity * (-r.entryContext.netDirectionalExposureLimit - st.netToward r.direction) ≤ notional

namespace GatekeeperAux

variable {p q : RiskProfile} {r : ExecutionOrderRequest} {c : EntryContext} {st : ExecutionRiskState} {n : ℚ}

theorem le_foldr_min {x a : ℚ} {l : List ℚ} : x ≤ List.foldr min a l ↔ x ≤ a ∧ ∀ b ∈ l, x ≤ b := by
  induction l with
  | nil => simp
  | cons b l ih =>
    rw [List.foldr_cons, le_min_iff, ih, List.forall_mem_cons]
    exact and_left_comm

/-- The bound of the net exposure, in the direction of the request. -/
theorem abs_net_le {limit fraction : ℚ} (direction : Direction) :
    |st.netDirectionalExposure + (if direction = .long then fraction else -fraction)| ≤ limit ↔
      -limit - st.netToward direction ≤ fraction ∧ fraction ≤ limit - st.netToward direction := by
  rw [abs_le]
  cases direction with
  | long =>
    simp only [if_true, ExecutionRiskState.netToward]
    constructor
    · rintro ⟨h, h'⟩
      exact ⟨by linarith, by linarith⟩
    · rintro ⟨h, h'⟩
      exact ⟨by linarith, by linarith⟩
  | short =>
    simp only [reduceCtorEq, if_false, ExecutionRiskState.netToward]
    constructor
    · rintro ⟨h, h'⟩
      exact ⟨by linarith, by linarith⟩
    · rintro ⟨h, h'⟩
      exact ⟨by linarith, by linarith⟩

/-- The codes are none exactly when the account bears the request and its share of the equity is within the bounds. -/
theorem numericRiskCodes_eq_nil (direction : Direction) (hequity : 0 < st.accountEquity) (hpeak : 0 < st.equityPeak) :
    numericRiskCodes p direction c st = [] ↔ p.Bears c st ∧
      st.requestedFraction ≤ p.maxSymbolExposure - st.symbolExposure ∧
      st.requestedFraction ≤ p.maxTotalExposure - st.totalExposure ∧
      st.requestedFraction ≤ c.correlatedClusterExposureLimit - st.correlatedClusterExposure ∧
      (c.isHedgeLeg = false → -c.netDirectionalExposureLimit - st.netToward direction ≤ st.requestedFraction ∧
        st.requestedFraction ≤ c.netDirectionalExposureLimit - st.netToward direction) ∧
      (0 < st.consecutiveLosses ∧ 0 < st.symbolExposure → st.requestedFraction ≤ st.symbolExposure * 2) := by
  have hcluster : (if st.portfolioCorrelationAvailable = false then ["portfolio_correlation_unavailable"]
      else if c.correlatedPeerCountLimit ≤ st.highCorrelationPeerCount then ["correlated_exposure_limit_exceeded"]
      else codeIf (c.correlatedClusterExposureLimit < st.correlatedClusterExposure + st.requestedFraction)
        "correlated_cluster_exposure_exceeded") = [] ↔ st.portfolioCorrelationAvailable = true ∧
      st.highCorrelationPeerCount < c.correlatedPeerCountLimit ∧
        st.correlatedClusterExposure + st.requestedFraction ≤ c.correlatedClusterExposureLimit := by
    cases st.portfolioCorrelationAvailable with
    | false => simp
    | true =>
      by_cases hpeers : c.correlatedPeerCountLimit ≤ st.highCorrelationPeerCount
      · simp [hpeers]
      · simp [hpeers, not_le.mp hpeers]
  have hdrawdown : (if p.hardStopDrawdownLimit ≤ st.drawdown then ["hard_stop_drawdown_breached"]
      else codeIf (p.drawdownLimit ≤ st.drawdown) "drawdown_limit_breached") = [] ↔
      st.drawdown < p.hardStopDrawdownLimit ∧ st.drawdown < p.drawdownLimit := by
    by_cases hhard : p.hardStopDrawdownLimit ≤ st.drawdown
    · simp [hhard]
    · simp [hhard, not_le.mp hhard]
  unfold numericRiskCodes
  simp only [List.append_eq_nil_iff, codeIf_eq_nil, hcluster, hdrawdown, not_lt, not_le, not_and, abs_net_le]
  constructor
  · rintro ⟨⟨⟨⟨⟨⟨⟨⟨⟨⟨⟨⟨⟨hsymbol, htotal⟩, havailable, hpeers, hcluster⟩, hnet⟩, hopen⟩, hleverage⟩, hstop⟩, hportfolio⟩, hdaily⟩,
      hweekly⟩, hhard, hdrawdown⟩, hlosses⟩, hmartingale⟩, hfailures⟩
    refine ⟨⟨hequity, hpeak, havailable, hpeers, hopen, hleverage, hstop, hportfolio, hdaily, hweekly, hhard, hdrawdown, hlosses,
      hfailures⟩, ?_, ?_, ?_, hnet, fun h => hmartingale h.1 h.2⟩
    · exact le_sub_iff_add_le'.mpr hsymbol
    · exact le_sub_iff_add_le'.mpr htotal
    · exact le_sub_iff_add_le'.mpr hcluster
  · rintro ⟨hbears, hsymbol, htotal, hcluster, hnet, hmartingale⟩
    exact ⟨⟨⟨⟨⟨⟨⟨⟨⟨⟨⟨⟨⟨le_sub_iff_add_le'.mp hsymbol, le_sub_iff_add_le'.mp htotal⟩, hbears.correlation, hbears.peers,
      le_sub_iff_add_le'.mp hcluster⟩, hnet⟩, hbears.openPositions⟩, hbears.leverage⟩, hbears.stopRisk⟩, hbears.portfolioRisk⟩,
      hbears.dailyLoss⟩, hbears.weeklyLoss⟩, hbears.hardStopDrawdown, hbears.drawdown⟩, hbears.losses⟩,
      fun h h' => hmartingale ⟨h, h'⟩⟩, hbears.failures⟩

theorem le_capacity (hequity : 0 < st.accountEquity) : n ≤ r.capacity p st ↔
    n / st.accountEquity ≤ p.maxSymbolExposure - st.symbolExposure ∧
    n / st.accountEquity ≤ p.maxTotalExposure - st.totalExposure ∧
    n / st.accountEquity ≤ r.entryContext.correlatedClusterExposureLimit - st.correlatedClusterExposure ∧
    (r.entryContext.isHedgeLeg = false →
      n / st.accountEquity ≤ r.entryContext.netDirectionalExposureLimit - st.netToward r.direction) ∧
    (0 < st.consecutiveLosses ∧ 0 < st.symbolExposure → n / st.accountEquity ≤ st.symbolExposure * 2) := by
  unfold ExecutionOrderRequest.capacity
  rw [← div_le_iff₀' hequity, le_foldr_min]
  simp only [List.forall_mem_append, List.forall_mem_cons]
  have hhedge : (∀ b ∈ (if r.entryContext.isHedgeLeg = true then []
      else [r.entryContext.netDirectionalExposureLimit - st.netToward r.direction]), n / st.accountEquity ≤ b) ↔
      (r.entryContext.isHedgeLeg = false →
        n / st.accountEquity ≤ r.entryContext.netDirectionalExposureLimit - st.netToward r.direction) := by
    cases r.entryContext.isHedgeLeg <;> simp
  have hmartingale : (∀ b ∈ (if 0 < st.consecutiveLosses ∧ 0 < st.symbolExposure then [st.symbolExposure * 2] else []),
      n / st.accountEquity ≤ b) ↔
      (0 < st.consecutiveLosses ∧ 0 < st.symbolExposure → n / st.accountEquity ≤ st.symbolExposure * 2) := by
    by_cases h : 0 < st.consecutiveLosses ∧ 0 < st.symbolExposure <;> simp [h]
  rw [hhedge, hmartingale]
  constructor
  · rintro ⟨hsymbol, ⟨⟨htotal, hcluster, -⟩, hnet⟩, hrest⟩
    exact ⟨hsymbol, htotal, hcluster, hnet, hrest⟩
  · rintro ⟨hsymbol, htotal, hcluster, hnet, hrest⟩
    exact ⟨hsymbol, ⟨⟨htotal, hcluster, fun b hb => by cases hb⟩, hnet⟩, hrest⟩

theorem aboveFloor_iff (hequity : 0 < st.accountEquity) : r.AboveFloor st n ↔ (r.entryContext.isHedgeLeg = false →
    -r.entryContext.netDirectionalExposureLimit - st.netToward r.direction ≤ n / st.accountEquity) := by
  unfold ExecutionOrderRequest.AboveFloor
  rw [le_div_iff₀' hequity]

/-- What an account bears under limits it bears under looser ones. -/
theorem bears_looser (h : p.Looser q) (hb : p.Bears c st) : q.Bears c st where
  equity := hb.equity
  peak := hb.peak
  correlation := hb.correlation
  peers := hb.peers
  openPositions := hb.openPositions.trans_le h.openPositions
  leverage := hb.leverage.trans h.leverage
  stopRisk := hb.stopRisk.trans h.singleTradeRisk
  portfolioRisk := hb.portfolioRisk
  dailyLoss := hb.dailyLoss.trans_le (mul_le_mul_of_nonneg_left h.dailyLoss hb.equity.le)
  weeklyLoss := hb.weeklyLoss.trans_le (mul_le_mul_of_nonneg_left h.weeklyLoss hb.equity.le)
  hardStopDrawdown := hb.hardStopDrawdown.trans_le h.hardStopDrawdown
  drawdown := hb.drawdown.trans_le h.drawdown
  losses := hb.losses.trans_le h.consecutiveLoss
  failures := hb.failures.trans_le h.apiFailure

theorem capacity_looser (h : p.Looser q) (hequity : 0 < st.accountEquity) : r.capacity p st ≤ r.capacity q st := by
  obtain ⟨hsymbol, htotal, hcluster, hnet, hmartingale⟩ := (le_capacity (r := r) (p := p) hequity).mp le_rfl
  refine (le_capacity hequity).mpr ⟨?_, ?_, hcluster, hnet, hmartingale⟩
  · exact hsymbol.trans (sub_le_sub_right h.symbolExposure _)
  · exact htotal.trans (sub_le_sub_right h.totalExposure _)

theorem evaluateNumericRisk_asking (hst : r.riskState = some st) (hopen : r.entryContext.closeOnlyMode = false) :
    evaluateNumericRisk p (r.asking n) = [] ↔ p.Bears r.entryContext st ∧ r.AboveFloor st n ∧ n ≤ r.capacity p st := by
  have hasked : (r.asking n).riskState = some { st with requestedNotional := n } := by
    simp [ExecutionOrderRequest.asking, hst]
  have hcontext : (r.asking n).entryContext = r.entryContext := rfl
  unfold evaluateNumericRisk
  simp only [hasked, hcontext, hopen, Bool.false_eq_true, if_false]
  by_cases hinvalid : st.accountEquity ≤ 0 ∨ st.equityPeak ≤ 0
  · rw [if_pos hinvalid]
    refine ⟨fun h => by simp at h, fun h => ?_⟩
    rcases hinvalid with hequity | hpeak
    · exact absurd h.1.equity (not_lt.mpr hequity)
    · exact absurd h.1.peak (not_lt.mpr hpeak)
  · rw [if_neg hinvalid]
    rw [not_or, not_le, not_le] at hinvalid
    obtain ⟨hequity, hpeak⟩ := hinvalid
    have hcodes : numericRiskCodes p r.direction r.entryContext { st with requestedNotional := n } = [] ↔ _ :=
      numericRiskCodes_eq_nil r.direction hequity hpeak
    have hbears : p.Bears r.entryContext { st with requestedNotional := n } ↔ p.Bears r.entryContext st := by
      constructor <;> exact fun h => ⟨h.1, h.2, h.3, h.4, h.5, h.6, h.7, h.8, h.9, h.10, h.11, h.12, h.13, h.14⟩
    refine hcodes.trans ?_
    rw [hbears, aboveFloor_iff hequity, le_capacity hequity]
    simp only [ExecutionRiskState.requestedFraction]
    constructor
    · rintro ⟨hb, hsymbol, htotal, hcluster, hnet, hrest⟩
      exact ⟨hb, fun h => (hnet h).1, hsymbol, htotal, hcluster, fun h => (hnet h).2, hrest⟩
    · rintro ⟨hb, hfloor, hsymbol, htotal, hcluster, hnet, hrest⟩
      exact ⟨hb, hsymbol, htotal, hcluster, fun h => ⟨hfloor h, hnet h⟩, hrest⟩

end GatekeeperAux

/-- In exact arithmetic the notionals that the limits admit are those from the floor to the capacity, if the account bears a request
at all. Looser limits admit them too. -/
theorem notional_admitted_iff {r : ExecutionOrderRequest} {st : ExecutionRiskState} (hst : r.riskState = some st)
    (hopen : r.entryContext.closeOnlyMode = false) (p : RiskProfile) :
    (∀ n, evaluateNumericRisk p (r.asking n) = [] ↔ p.Bears r.entryContext st ∧ r.AboveFloor st n ∧ n ≤ r.capacity p st) ∧
      ∀ q, p.Looser q → ∀ n, evaluateNumericRisk p (r.asking n) = [] → evaluateNumericRisk q (r.asking n) = [] := by
  refine ⟨fun n => evaluateNumericRisk_asking hst hopen, fun q hq n hadmitted => ?_⟩
  obtain ⟨hbears, hfloor, hcapacity⟩ := (evaluateNumericRisk_asking hst hopen).mp hadmitted
  refine (evaluateNumericRisk_asking hst hopen).mpr ⟨bears_looser hq hbears, hfloor, ?_⟩
  exact hcapacity.trans (capacity_looser hq hbears.equity)

/-- An account of a thousand may not take more than a hundred in a symbol. -/
theorem notional_admitted_capacity : ¬evaluateNumericRisk {} (sampleGateEntry.asking 101) = [] := by
  rw [(notional_admitted_iff (r := sampleGateEntry) rfl rfl {}).1 101]
  rintro ⟨-, -, hcapacity⟩
  exact absurd hcapacity (by decide +kernel)

/-! ## The halt -/

/-- What a step makes of the flag of a process. -/
def KillOp.flag (p : ℕ) : KillOp → Option Bool
  | .activate p' _ _ => if p' = p then some true else none
  | .deactivate p' _ => if p' = p then some false else none
  | .restart p' => if p' = p then some false else none
  | .write _ => none

/-- What a step writes in the store. -/
def KillOp.key (clients : ℕ → Bool) : KillOp → Option (Option String)
  | .activate p reachable _ => if clients p && reachable then some (some "1") else none
  | .deactivate p reachable => if clients p && reachable then some none else none
  | .restart _ => none
  | .write value => some value

/-- The halt as the processes start. -/
def KillSwitches.start (clients : ℕ → Bool) : KillSwitches where
  process p := { hasClient := clients p }

namespace GatekeeperAux

variable {clients : ℕ → Bool} {ops : List KillOp}

theorem run_append (k : KillSwitches) (ops : List KillOp) (op : KillOp) : k.run (ops ++ [op]) = (k.run ops).step op := by
  simp [KillSwitches.run]

/-- A step leaves the clients, and sets a flag to what it makes of it, if anything. -/
theorem step_process (k : KillSwitches) (op : KillOp) (p : ℕ) :
    ((k.step op).process p).hasClient = (k.process p).hasClient ∧
      ((k.step op).process p).memoryFlag = (op.flag p).getD (k.process p).memoryFlag := by
  cases op with
  | write value => exact ⟨rfl, rfl⟩
  | activate p' _ _ | deactivate p' _ | restart p' =>
    by_cases hp : p' = p
    · subst hp
      simp [KillSwitches.step, KillOp.flag]
    · simp [KillSwitches.step, KillOp.flag, hp, Function.update_of_ne (Ne.symm hp)]

theorem run_hasClient (p : ℕ) : (((KillSwitches.start clients).run ops).process p).hasClient = clients p := by
  induction ops using List.reverseRecOn with
  | nil => rfl
  | append_singleton ops op ih => rw [run_append, (step_process _ op p).1, ih]

/-- The flag of a process is what its last step made of it. -/
theorem run_memoryFlag (p : ℕ) : (((KillSwitches.start clients).run ops).process p).memoryFlag =
    (ops.filterMap (KillOp.flag p)).getLast?.getD false := by
  induction ops using List.reverseRecOn with
  | nil => rfl
  | append_singleton ops op ih =>
    rw [run_append, (step_process _ op p).2, ih, List.filterMap_append]
    cases hflag : op.flag p <;> simp [hflag]

/-- The store holds what the last step that reached it wrote. -/
theorem run_stored : ((KillSwitches.start clients).run ops).stored = (ops.filterMap (KillOp.key clients)).getLast?.join := by
  induction ops using List.reverseRecOn with
  | nil => rfl
  | append_singleton ops op ih =>
    have hstep : (((KillSwitches.start clients).run ops).step op).stored =
        (op.key clients).getD ((KillSwitches.start clients).run ops).stored := by
      cases op with
      | activate p reachable reason =>
        simp only [KillSwitches.step, KillOp.key, run_hasClient]
        split <;> rfl
      | deactivate p reachable =>
        simp only [KillSwitches.step, KillOp.key, run_hasClient]
        split <;> rfl
      | restart p => rfl
      | write value => rfl
    rw [run_append, hstep, ih, List.filterMap_append]
    cases hkey : op.key clients <;> simp [hkey]

/-- No numeric limit gives the code of the halt. -/
theorem numeric_not_halted (p : RiskProfile) (r : ExecutionOrderRequest) : "kill_switch_active" ∉ evaluateNumericRisk p r := by
  unfold evaluateNumericRisk
  split
  · simp
  · rename_i st _
    split
    · simp
    · split
      · simp
      · have hcorrelation : "kill_switch_active" ∉ (if st.portfolioCorrelationAvailable = false
            then ["portfolio_correlation_unavailable"]
          else if r.entryContext.correlatedPeerCountLimit ≤ st.highCorrelationPeerCount then ["correlated_exposure_limit_exceeded"]
          else codeIf (r.entryContext.correlatedClusterExposureLimit < st.correlatedClusterExposure + st.requestedFraction)
            "correlated_cluster_exposure_exceeded") := by
          split
          · simp
          · split <;> simp
        have hdrawdown : "kill_switch_active" ∉ (if p.hardStopDrawdownLimit ≤ st.drawdown then ["hard_stop_drawdown_breached"]
            else codeIf (p.drawdownLimit ≤ st.drawdown) "drawdown_limit_breached") := by
          split <;> simp
        unfold numericRiskCodes
        simp only [List.mem_append, hcorrelation, hdrawdown, mem_codeIf]
        simp

/-- No other gate gives the code of the halt. -/
theorem halted_iff (r : ExecutionOrderRequest) (settings : GateSettings) (facts : GateFacts) :
    "kill_switch_active" ∈ r.entryRejections settings facts ↔ facts.killSwitchTriggered = true := by
  have hedge : "kill_switch_active" ∉ (netEdgeRejectionCodes settings r.entryContext).1 := by
    unfold netEdgeRejectionCodes
    split
    · simp
    · split
      · split <;> simp
      · split <;> simp
  have hvalidation : "kill_switch_active" ∉ r.validationRejections facts := by
    unfold ExecutionOrderRequest.validationRejections
    split
    · split <;> simp
    · simp
  have hstate : ∀ p, "kill_switch_active" ∉ (if (r.riskState.isNone && !r.entryContext.closeOnlyMode) = true
      then ["missing_risk_state"] else evaluateNumericRisk p r) := by
    intro p
    split
    · simp
    · exact numeric_not_halted p r
  unfold ExecutionOrderRequest.entryRejections
  simp only [List.mem_append, mem_codeIf, hvalidation, hedge, hstate]
  simp

end GatekeeperAux

/-- After any commands, restarts and outages, an entry that a process checks is refused as halted exactly if the last command
to that process activated the halt, or the process reaches the store and the last write that reached it halts. -/
theorem entry_halted_iff (clients : ℕ → Bool) (ops : List KillOp) (p : ℕ) (reachable : Bool) (r : ExecutionOrderRequest)
    (settings : GateSettings) (facts : GateFacts) :
    "kill_switch_active" ∈ r.entryRejections settings { facts with
        killSwitchTriggered := ((KillSwitches.start clients).run ops).isTriggered settings p reachable } ↔
      settings.killSwitchEnabled = true ∧ ((ops.filterMap (KillOp.flag p)).getLast? = some true ∨
        clients p = true ∧ reachable = true ∧ ∃ v, (ops.filterMap (KillOp.key clients)).getLast? = some (some v) ∧ v ≠ "0") := by
  rw [halted_iff]
  unfold KillSwitches.isTriggered
  rw [run_memoryFlag, run_hasClient, run_stored]
  have hflag : (ops.filterMap (KillOp.flag p)).getLast?.getD false = true ↔
      (ops.filterMap (KillOp.flag p)).getLast? = some true := by
    cases (ops.filterMap (KillOp.flag p)).getLast? <;> simp
  have hkey : (ops.filterMap (KillOp.key clients)).getLast?.join.any (· != "0") = true ↔
      ∃ v, (ops.filterMap (KillOp.key clients)).getLast? = some (some v) ∧ v ≠ "0" := by
    rcases (ops.filterMap (KillOp.key clients)).getLast? with - | - | v <;> simp
  simp only [Bool.and_eq_true, Bool.or_eq_true, hflag, hkey, and_assoc]

end TradingPlatform
