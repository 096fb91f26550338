import TradingPlatform.Lemmas.StopReplacement
import TradingPlatform.Theorems.LostStop

/-!
# A tightening that fails halfway

A tightening submits the new stop, cancels the old one and records the new one; the records of all positions are committed
together. After a raise the records may name stops that are closed, and stops may be open that no record names.
-/

namespace TradingPlatform

variable {positionId : String}

/-! ## The statement -/

/-- An open order of the exchange that is a stop of the engine for a position. -/
structure Exchange.OpenStop (x : Exchange) (positionId : String) (a : AcceptedOrder) : Prop where
  mem : a ∈ x.orders
  pending : a.status = .pending
  type_eq : a.request.type = .stopMarket
  stopId : ∃ revision, stopClientOrderId positionId revision = .ok a.request.newClientOrderId

/-- The record of a position names an open stop of it, and every open stop of it is named by a record. -/
structure StopInOrder (w : World) (positionId : String) : Prop where
  named : ∃ r a, w.db.activeProtection positionId = some r ∧ w.exchange.OpenStop positionId a ∧
    r.stopExchangeOrderId = some a.exchangeOrderId
  known : ∀ a, w.exchange.OpenStop positionId a → ∃ r ∈ w.db.protections, r.stopExchangeOrderId = some a.exchangeOrderId

/-- The stops of the managed positions of a symbol are in order. -/
def StopsInOrder (mode : V2ExecutionMode) (symbol : String) (w : World) : Prop :=
  ∀ p ∈ w.db.openPositions mode, p.symbol = symbol → p.state ≠ .closed → p.state ≠ .quarantined → StopInOrder w p.positionId

/-- The exchange gives every order an id of its own, and no two records have the stop of one order. -/
structure World.OwnIds (w : World) : Prop where
  positionKeys : (w.db.positions.map (·.positionId)).Nodup
  protectionKeys : (w.db.protections.map (·.protectionId)).Nodup
  owner : ∀ r ∈ w.db.protections, ∀ r' ∈ w.db.protections, ∀ id, r.stopExchangeOrderId = some id →
    r'.stopExchangeOrderId = some id → r = r'
  unusedOrder : ∀ n, w.exchange.calls ≤ n → ∀ id, (w.exchange.behaviour n).acceptedId = some id →
    ∀ a ∈ w.exchange.orders, a.exchangeOrderId ≠ id
  unusedStop : ∀ n, w.exchange.calls ≤ n → ∀ id, (w.exchange.behaviour n).acceptedId = some id →
    ∀ r ∈ w.db.protections, r.stopExchangeOrderId ≠ some id
  distinct : ∀ m n id, w.exchange.calls ≤ m → w.exchange.calls ≤ n → (w.exchange.behaviour m).acceptedId = some id →
    (w.exchange.behaviour n).acceptedId = some id → m = n

/-- The exchange does not take the first new stop, if one is due. -/
def FirstStopRefused (x : Exchange) : List (LocalPositionView × Tightening) → Prop
  | [] => True
  | (p, t) :: _ =>
    (stopClientOrderId p.positionId t.revision).isOk = false ∨ x.gatewayError ≠ none ∨
      (x.behaviour x.calls).acceptedId = none

/-- No call of a tightening raises, and the stop each one cancels is the one that the active record names. -/
def AllReplaced (failure : StoreFailure) : List (LocalPositionView × Tightening) → World → Prop
  | [], _ => True
  | (p, t) :: rest, w =>
    (∃ r, w.db.activeProtection p.positionId = some r ∧ r.stopExchangeOrderId = some t.oldStopExchangeOrderId) ∧
      ∃ clientOrderId receipt x w', Replacement failure w p t clientOrderId receipt x w' ∧ AllReplaced failure rest w'

namespace TighteningAux

/-! ## The records -/

theorem activeProtection_modify (db : Database) (id : String) {f : ProtectionRow → ProtectionRow}
    (hposition : ∀ r, (f r).positionId = r.positionId) (hstate : ∀ r, (f r).state = r.state) (positionId : String) :
    (db.modifyProtection id f).activeProtection positionId =
      (db.activeProtection positionId).map fun r => if r.protectionId = id then f r else r := by
  unfold Database.activeProtection Database.protectionsOf Database.modifyProtection Table.modify
  rw [List.filter_map, List.filter_map, List.getLast?_map]
  congr 2
  rw [List.filter_filter, List.filter_filter]
  congr 1
  funext r
  by_cases hid : r.protectionId = id
  · simp [hid, hposition, hstate]
  · simp [hid]

/-- The active record of a position is one of its records. -/
theorem activeProtection_some {db : Database} {r : ProtectionRow}
    (h : db.activeProtection positionId = some r) : r ∈ db.protections ∧ r.positionId = positionId := by
  obtain ⟨hmem, -⟩ := List.mem_filter.mp (List.mem_of_getLast? h)
  obtain ⟨hmem, hposition⟩ := List.mem_filter.mp hmem
  exact ⟨hmem, of_decide_eq_true hposition⟩

/-- What a tightening makes of a record. -/
def tightenedRow (safeStop : ℚ) (clientOrderId exchangeOrderId : String) (r : ProtectionRow) : ProtectionRow :=
  { r with stopLossPrice := numeric 4 safeStop, stopClientOrderId := clientOrderId, stopExchangeOrderId := some exchangeOrderId,
           version := r.version + 1 }

/-- The order of a new stop. -/
def newStop (p : LocalPositionView) (clientOrderId exchangeOrderId : String) : AcceptedOrder :=
  { exchangeOrderId, request := replacementRequest p clientOrderId }

/-! ## One tightening -/

section Step

variable {failure : StoreFailure} {w w' : World} {p : LocalPositionView} {t : Tightening} {clientOrderId : String}
  {receipt : ExchangeOrderReceipt} {x : Exchange}

/-- The records after a tightening. -/
theorem replacement_protections (h : Replacement failure w p t clientOrderId receipt x w') :
    w'.db.positions = w.db.positions ∧ w'.db.protections = (w.db.modifyProtection (p.protectionId.getD "")
      (tightenedRow t.safeStop clientOrderId receipt.exchangeOrderId)).protections := by
  obtain ⟨-, hupdate⟩ := recordTightening_eq_ok.mp h.recorded
  obtain ⟨_, -, -, -, hdb⟩ := updateProtectionStop_eq_ok.mp hupdate
  rw [hdb]
  exact ⟨rfl, rfl⟩

/-- A view with its active record, and the stop it would cancel among the records of its position. -/
structure Entry (db : Database) (p : LocalPositionView) (t : Tightening) (r : ProtectionRow) : Prop where
  active : db.activeProtection p.positionId = some r
  protectionId_eq : p.protectionId = some r.protectionId
  oldStop : ∃ r' ∈ db.protections, r'.positionId = p.positionId ∧ r'.stopExchangeOrderId = some t.oldStopExchangeOrderId

/-- What a tightening does, for the record and the orders. -/
structure Replaced (w w' : World) (p : LocalPositionView) (t : Tightening) (r : ProtectionRow) (a : AcceptedOrder)
    (f : ProtectionRow → ProtectionRow) : Prop where
  positions : w'.db.positions = w.db.positions
  protections : w'.db.protections = (w.db.modifyProtection r.protectionId f).protections
  row : ∃ safeStop clientOrderId, f = tightenedRow safeStop clientOrderId a.exchangeOrderId
  accepted : (w.exchange.behaviour w.exchange.calls).acceptedId = some a.exchangeOrderId
  script : w.exchange.SameScript w'.exchange
  calls_lt : w.exchange.calls < w'.exchange.calls
  newStop : w'.exchange.OpenStop p.positionId a
  stays : ∀ b ∈ w.exchange.orders, b.exchangeOrderId ≠ t.oldStopExchangeOrderId → b ∈ w'.exchange.orders
  origin : ∀ b ∈ w'.exchange.orders, b.status = .pending →
    b = a ∨ (b ∈ w.exchange.orders ∧ b.exchangeOrderId ≠ t.oldStopExchangeOrderId)
  ids : ∀ b ∈ w'.exchange.orders, b.exchangeOrderId = a.exchangeOrderId ∨
    ∃ c ∈ w.exchange.orders, c.exchangeOrderId = b.exchangeOrderId

theorem replaced_of_replacement (hids : w.OwnIds) {r : ProtectionRow} (hentry : Entry w.db p t r)
    (h : Replacement failure w p t clientOrderId receipt x w') :
    ∃ f, Replaced w w' p t r (newStop p clientOrderId receipt.exchangeOrderId) f := by
  obtain ⟨hpositions, hprotections⟩ := replacement_protections h
  rw [hentry.protectionId_eq, Option.getD_some] at hprotections
  rcases submitReplacement_spec h.submitted with ⟨-, -, hnone⟩ | ⟨-, hscript, hcalls, horders, hok⟩
  · exact absurd rfl (hnone receipt)
  have haccepted := hok receipt rfl
  rw [haccepted] at horders
  have horders : x.orders = w.exchange.orders ++ [newStop p clientOrderId receipt.exchangeOrderId] := horders
  obtain ⟨hcancels, hclosed⟩ := cancelOrder_spec h.cancelled
  -- the new order is under an id of its own, so the cancellation leaves it
  obtain ⟨r', hr', -, hold⟩ := hentry.oldStop
  have hne : receipt.exchangeOrderId ≠ t.oldStopExchangeOrderId := by
    intro heq
    refine hids.unusedStop _ (le_refl _) _ haccepted r' hr' ?_
    rw [hold, heq]
  have hnew : newStop p clientOrderId receipt.exchangeOrderId ∈ w'.exchange.orders := by
    refine hcancels.stays _ ?_ hne
    rw [horders]
    exact List.mem_append_right _ List.mem_cons_self
  refine ⟨tightenedRow t.safeStop clientOrderId receipt.exchangeOrderId, hpositions, hprotections, ⟨_, _, rfl⟩, haccepted,
    hscript.trans hcancels.script, ?_, ⟨hnew, rfl, rfl, ⟨_, h.clientOrderId_eq⟩⟩, fun b hb hbne => ?_, fun b hb hpending => ?_,
    fun b hb => ?_⟩
  · have := hcancels.calls_le
    omega
  · refine hcancels.stays b ?_ hbne
    rw [horders]
    exact List.mem_append_left _ hb
  · have hbx := hcancels.origin b hb hpending
    rw [horders] at hbx
    rcases List.mem_append.mp hbx with hbx | hbx
    · exact .inr ⟨hbx, hclosed rfl b hb hpending⟩
    · exact .inl (List.mem_singleton.mp hbx)
  · obtain ⟨c, hc, hcb⟩ := hcancels.ids b hb
    rw [horders] at hc
    rcases List.mem_append.mp hc with hc | hc
    · exact .inr ⟨c, hc, hcb⟩
    · rw [List.mem_singleton.mp hc] at hcb
      exact .inl hcb.symm

end Step

section Replaced

variable {w w' : World} {p : LocalPositionView} {t : Tightening} {r : ProtectionRow} {a : AcceptedOrder}
  {f : ProtectionRow → ProtectionRow}

/-- The new record names the new stop and is otherwise the record of the same position. -/
theorem Replaced.stop (h : Replaced w w' p t r a f) (r₀ : ProtectionRow) :
    (f r₀).stopExchangeOrderId = some a.exchangeOrderId ∧ (f r₀).positionId = r₀.positionId ∧
      (f r₀).protectionId = r₀.protectionId ∧ (f r₀).state = r₀.state := by
  obtain ⟨safeStop, clientOrderId, rfl⟩ := h.row
  exact ⟨rfl, rfl, rfl, rfl⟩

/-- A record is the new one or an old one of another key. -/
theorem Replaced.of_mem (h : Replaced w w' p t r a f) (hids : w.OwnIds) (hr : r ∈ w.db.protections) {r₁ : ProtectionRow}
    (hr₁ : r₁ ∈ w'.db.protections) : r₁ = f r ∨ (r₁ ∈ w.db.protections ∧ r₁ ≠ r) := by
  rw [h.protections] at hr₁
  obtain ⟨r₀, hr₀, rfl⟩ := Table.mem_modify.mp hr₁
  by_cases hkey : r₀.protectionId = r.protectionId
  · rw [if_pos hkey]
    obtain rfl := List.inj_on_of_nodup_map hids.protectionKeys hr₀ hr hkey
    exact .inl rfl
  · rw [if_neg hkey]
    exact .inr ⟨hr₀, fun heq => hkey (congrArg _ heq)⟩

theorem Replaced.mem_new (h : Replaced w w' p t r a f) (hr : r ∈ w.db.protections) : f r ∈ w'.db.protections := by
  rw [h.protections]
  exact Table.mem_modify.mpr ⟨r, hr, if_pos rfl⟩

theorem Replaced.mem_old (h : Replaced w w' p t r a f) (hids : w.OwnIds) (hr : r ∈ w.db.protections) {r₀ : ProtectionRow}
    (hr₀ : r₀ ∈ w.db.protections) (hne : r₀ ≠ r) : r₀ ∈ w'.db.protections := by
  rw [h.protections]
  exact Table.mem_modify.mpr
    ⟨r₀, hr₀, if_neg fun hkey => hne (List.inj_on_of_nodup_map hids.protectionKeys hr₀ hr hkey)⟩

/-- The active record of a position afterwards. -/
theorem Replaced.active (h : Replaced w w' p t r a f) (positionId : String) :
    w'.db.activeProtection positionId =
      (w.db.activeProtection positionId).map fun r₀ => if r₀.protectionId = r.protectionId then f r₀ else r₀ := by
  rw [← activeProtection_modify w.db r.protectionId (fun r₀ => (h.stop r₀).2.1) (fun r₀ => (h.stop r₀).2.2.2) positionId]
  unfold Database.activeProtection Database.protectionsOf
  rw [h.protections]

theorem Replaced.ownIds (h : Replaced w w' p t r a f) (hids : w.OwnIds) (hr : r ∈ w.db.protections) : w'.OwnIds := by
  have hcalls := h.calls_lt
  refine ⟨?_, ?_, fun r₁ hr₁ r₂ hr₂ id hid₁ hid₂ => ?_, fun n hn id hid b hb hb' => ?_, fun n hn id hid r₁ hr₁ hstop => ?_,
    fun m n id hm hn hmid hnid => ?_⟩
  · rw [h.positions]
    exact hids.positionKeys
  · rw [h.protections]
    have hmap : (w.db.modifyProtection r.protectionId f).protections.map (·.protectionId) =
        w.db.protections.map (·.protectionId) := Table.map_modify fun r₀ => (h.stop r₀).2.2.1
    rw [hmap]
    exact hids.protectionKeys
  · rcases h.of_mem hids hr hr₁ with rfl | ⟨hold₁, -⟩ <;> rcases h.of_mem hids hr hr₂ with rfl | ⟨hold₂, -⟩
    · rfl
    · rw [(h.stop r).1] at hid₁
      exact absurd (hid₂.trans hid₁.symm) (hids.unusedStop _ (le_refl _) _ h.accepted r₂ hold₂)
    · rw [(h.stop r).1] at hid₂
      exact absurd (hid₁.trans hid₂.symm) (hids.unusedStop _ (le_refl _) _ h.accepted r₁ hold₁)
    · exact hids.owner r₁ hold₁ r₂ hold₂ id hid₁ hid₂
  · rw [h.script.behaviour] at hid
    rcases h.ids b hb with hnew | ⟨c, hc, hcb⟩
    · rw [← hb', hnew] at hid
      have := hids.distinct n _ _ (by omega) (le_refl _) hid h.accepted
      omega
    · exact hids.unusedOrder n (by omega) id hid c hc (hcb.trans hb')
  · rw [h.script.behaviour] at hid
    rcases h.of_mem hids hr hr₁ with rfl | ⟨hold, -⟩
    · rw [(h.stop r).1] at hstop
      rw [← Option.some.inj hstop] at hid
      have := hids.distinct n _ _ (by omega) (le_refl _) hid h.accepted
      omega
    · exact hids.unusedStop n (by omega) id hid r₁ hold hstop
  · rw [h.script.behaviour] at hmid hnid
    exact hids.distinct m n id (by omega) (by omega) hmid hnid

/-- A tightening that cancels the stop of the active record leaves the stops of every position in order. -/
theorem Replaced.stopInOrder (h : Replaced w w' p t r a f) (hids : w.OwnIds) (hentry : Entry w.db p t r)
    (hcurrent : r.stopExchangeOrderId = some t.oldStopExchangeOrderId)
    (horder : StopInOrder w positionId) : StopInOrder w' positionId := by
  obtain ⟨hr, hrposition⟩ := activeProtection_some hentry.active
  constructor
  · by_cases hposition : positionId = p.positionId
    · subst hposition
      refine ⟨f r, a, ?_, h.newStop, (h.stop r).1⟩
      rw [h.active, hentry.active, Option.map_some, if_pos rfl]
    · obtain ⟨r', b, hactive, hopen, hnames⟩ := horder.named
      obtain ⟨hr', hr'position⟩ := activeProtection_some hactive
      have hne : r' ≠ r := fun heq => hposition (hr'position.symm.trans (heq ▸ hrposition))
      have hbne : b.exchangeOrderId ≠ t.oldStopExchangeOrderId := by
        intro heq
        rw [heq] at hnames
        exact hne (hids.owner r' hr' r hr _ hnames hcurrent)
      refine ⟨r', b, ?_, ⟨h.stays b hopen.mem hbne, hopen.pending, hopen.type_eq, hopen.stopId⟩, hnames⟩
      rw [h.active, hactive, Option.map_some,
        if_neg fun hkey => hne (List.inj_on_of_nodup_map hids.protectionKeys hr' hr hkey)]
  · intro b hb
    rcases h.origin b hb.mem hb.pending with rfl | ⟨hold, hbne⟩
    · exact ⟨f r, h.mem_new hr, (h.stop r).1⟩
    · obtain ⟨r₀, hr₀, hnames⟩ := horder.known b ⟨hold, hb.pending, hb.type_eq, hb.stopId⟩
      refine ⟨r₀, h.mem_old hids hr hr₀ fun heq => hbne ?_, hnames⟩
      rw [heq, hcurrent] at hnames
      exact (Option.some.inj hnames).symm

/-- The entry of another position stays. -/
theorem Replaced.entry (h : Replaced w w' p t r a f) (hids : w.OwnIds) (hentry : Entry w.db p t r) {q : LocalPositionView}
    {t' : Tightening} {r' : ProtectionRow} (hne : q.positionId ≠ p.positionId) (hother : Entry w.db q t' r') :
    Entry w'.db q t' r' := by
  obtain ⟨hr, hrposition⟩ := activeProtection_some hentry.active
  obtain ⟨hr', hr'position⟩ := activeProtection_some hother.active
  have hother_ne : ∀ r₀ : ProtectionRow, r₀.positionId = q.positionId → r₀ ≠ r := by
    intro r₀ hr₀ heq
    rw [heq, hrposition] at hr₀
    exact hne hr₀.symm
  refine ⟨?_, hother.protectionId_eq, ?_⟩
  · rw [h.active, hother.active, Option.map_some,
      if_neg fun hkey => hother_ne r' hr'position (List.inj_on_of_nodup_map hids.protectionKeys hr' hr hkey)]
  · obtain ⟨r₀, hr₀, hposition, hold⟩ := hother.oldStop
    exact ⟨r₀, h.mem_old hids hr hr₀ (hother_ne r₀ hposition), hposition, hold⟩

end Replaced

/-! ## The loop -/

section Loop

variable {failure : StoreFailure}

/-- A tightening leaves every order but the one it cancels, however it ends. -/
theorem tightenStop_stays {w w' : World} {p : LocalPositionView} {t : Tightening} {out : Except PyError Unit}
    (h : tightenStop w p t failure = (out, w')) {a : AcceptedOrder} (ha : a ∈ w.exchange.orders)
    (hne : t.oldStopExchangeOrderId ≠ a.exchangeOrderId) : a ∈ w'.exchange.orders := by
  have hsubmit : ∀ {clientOrderId : String} {out : Except PyError ExchangeOrderReceipt} {x : Exchange},
      submitReplacement w.exchange p t.safeStop clientOrderId = (out, x) → a ∈ x.orders := by
    intro clientOrderId out x hx
    rcases submitReplacement_spec hx with ⟨-, rfl, -⟩ | ⟨-, -, -, horders, -⟩
    · exact ha
    · rw [horders]
      exact List.mem_append_left _ ha
  rcases tightenStop_cases h with ⟨e, -, -, rfl⟩ | ⟨clientOrderId, -, ⟨e, x, -, hx, rfl⟩ | ⟨receipt, x, hx, hrest⟩⟩
  · exact ha
  · exact hsubmit hx
  · rcases hrest with ⟨e, x', -, hcancel, rfl⟩ | ⟨e, x', -, hcancel, -, rfl⟩ | ⟨-, hreplacement⟩
    · exact (cancelOrder_spec hcancel).1.stays a (hsubmit hx) hne.symm
    · exact (cancelOrder_spec hcancel).1.stays a (hsubmit hx) hne.symm
    · exact (cancelOrder_spec hreplacement.cancelled).1.stays a (hsubmit hx) hne.symm

/-- So does the loop for the orders it cancels. -/
theorem tightenDue_stays (due : List (LocalPositionView × Tightening)) {w w' : World} {out : Except PyError Unit}
    (h : tightenDue failure due w = (out, w')) {a : AcceptedOrder} (ha : a ∈ w.exchange.orders)
    (hne : ∀ pt ∈ due, pt.2.oldStopExchangeOrderId ≠ a.exchangeOrderId) : a ∈ w'.exchange.orders := by
  induction due generalizing w with
  | nil =>
    cases h
    exact ha
  | cons pt rest ih =>
    obtain ⟨p, t⟩ := pt
    unfold tightenDue at h
    split at h
    · rename_i e w₁ heq
      cases h
      exact tightenStop_stays heq ha (hne _ List.mem_cons_self)
    · rename_i w₁ heq
      exact ih h (tightenStop_stays heq ha (hne _ List.mem_cons_self)) fun pt hpt => hne pt (List.mem_cons_of_mem _ hpt)

/-- What the rest of the loop starts from. -/
structure Ready (w : World) (due : List (LocalPositionView × Tightening)) : Prop where
  ownIds : w.OwnIds
  entries : ∀ pt ∈ due, ∃ r, Entry w.db pt.1 pt.2 r
  positions : (due.map (·.1.positionId)).Nodup

section Ready

variable {w w' : World} {p : LocalPositionView} {t : Tightening} {rest : List (LocalPositionView × Tightening)}
  {clientOrderId : String} {receipt : ExchangeOrderReceipt} {x : Exchange}

theorem Ready.step (h : Ready w ((p, t) :: rest)) (hstep : Replacement failure w p t clientOrderId receipt x w') :
    ∃ r a f, Entry w.db p t r ∧ Replaced w w' p t r a f ∧ Ready w' rest := by
  obtain ⟨r, hentry⟩ := h.entries _ List.mem_cons_self
  obtain ⟨f, hreplaced⟩ := replaced_of_replacement h.ownIds hentry hstep
  obtain ⟨hr, -⟩ := activeProtection_some hentry.active
  have hpositions := h.positions
  rw [List.map_cons, List.nodup_cons] at hpositions
  refine ⟨r, _, f, hentry, hreplaced, hreplaced.ownIds h.ownIds hr, fun pt hpt => ?_, hpositions.2⟩
  obtain ⟨r', hother⟩ := h.entries pt (List.mem_cons_of_mem _ hpt)
  refine ⟨r', hreplaced.entry h.ownIds hentry (fun heq => hpositions.1 ?_) hother⟩
  rw [← heq]
  exact List.mem_map_of_mem hpt

/-- A stop that was accepted is under an id that the loop does not cancel. -/
theorem Ready.unusedOld (h : Ready w rest) {n : ℕ} (hn : w.exchange.calls ≤ n) {id : String}
    (hid : (w.exchange.behaviour n).acceptedId = some id) : ∀ pt ∈ rest, pt.2.oldStopExchangeOrderId ≠ id := by
  intro pt hpt heq
  obtain ⟨r, hentry⟩ := h.entries pt hpt
  obtain ⟨r', hr', -, hold⟩ := hentry.oldStop
  rw [heq] at hold
  exact h.ownIds.unusedStop n hn id hid r' hr' hold

/-- A loop that returns has made the first replacement. -/
theorem tightenDue_ok (h : tightenDue failure ((p, t) :: rest) w = (.ok (), w')) :
    ∃ clientOrderId receipt x w₁, Replacement failure w p t clientOrderId receipt x w₁ ∧
      tightenDue failure rest w₁ = (.ok (), w') := by
  unfold tightenDue at h
  split at h
  · nomatch (Prod.mk.inj h).1
  · rename_i w₁ heq
    rcases tightenStop_cases heq with ⟨e, he, -⟩ | ⟨clientOrderId, -, ⟨e, x, he, -⟩ | ⟨receipt, x, -, hrest⟩⟩
    · nomatch he
    · nomatch he
    · rcases hrest with ⟨e, x', he, -⟩ | ⟨e, x', he, -⟩ | ⟨-, hreplacement⟩
      · nomatch he
      · nomatch he
      · exact ⟨clientOrderId, receipt, x, w₁, hreplacement, h⟩

/-- A replacement lets the loop go on. -/
theorem tightenDue_step (h : Replacement failure w p t clientOrderId receipt x w') :
    tightenDue failure ((p, t) :: rest) w = tightenDue failure rest w' := by
  conv_lhs => unfold tightenDue
  rw [h.run]

theorem allReplaced_ok {due : List (LocalPositionView × Tightening)} {w : World} (h : AllReplaced failure due w) :
    ∃ w', tightenDue failure due w = (.ok (), w') := by
  induction due generalizing w with
  | nil => exact ⟨w, rfl⟩
  | cons pt rest ih =>
    obtain ⟨p, t⟩ := pt
    obtain ⟨-, clientOrderId, receipt, x, w₁, hreplacement, hrest⟩ := h
    rw [tightenDue_step hreplacement]
    exact ih hrest

end Ready

/-! ## Returning -/

/-- A stop that no record names and that the rest of the loop does not cancel stays so. -/
theorem stray_run (due : List (LocalPositionView × Tightening)) {w w' : World} (hready : Ready w due)
    (h : tightenDue failure due w = (.ok (), w')) {a : AcceptedOrder} (ha : a ∈ w.exchange.orders)
    (hunnamed : ∀ r ∈ w.db.protections, r.stopExchangeOrderId ≠ some a.exchangeOrderId) :
    ∀ r ∈ w'.db.protections, r.stopExchangeOrderId ≠ some a.exchangeOrderId := by
  induction due generalizing w with
  | nil =>
    cases h
    exact hunnamed
  | cons pt rest ih =>
    obtain ⟨p, t⟩ := pt
    obtain ⟨clientOrderId, receipt, x, w₁, hreplacement, hrest⟩ := tightenDue_ok h
    obtain ⟨r, b, f, hentry, hreplaced, hready₁⟩ := hready.step hreplacement
    obtain ⟨hr, -⟩ := activeProtection_some hentry.active
    have hne : t.oldStopExchangeOrderId ≠ a.exchangeOrderId := by
      intro heq
      obtain ⟨r', hr', -, hold⟩ := hentry.oldStop
      rw [heq] at hold
      exact hunnamed r' hr' hold
    refine ih hready₁ hrest (hreplaced.stays a ha hne.symm) fun r₁ hr₁ hnames => ?_
    rcases hreplaced.of_mem hready.ownIds hr hr₁ with rfl | ⟨hold, -⟩
    · rw [(hreplaced.stop r).1] at hnames
      exact hready.ownIds.unusedOrder _ (le_refl _) _ hreplaced.accepted a ha (Option.some.inj hnames).symm
    · exact hunnamed r₁ hold hnames

/-- A loop that returns leaves the stops in order exactly if each tightening cancelled the stop of its active record. -/
theorem returned_iff (managed : String → Prop) (due : List (LocalPositionView × Tightening)) {w w' : World}
    (hready : Ready w due) (hmanaged : ∀ pt ∈ due, managed pt.1.positionId)
    (horder : ∀ positionId, managed positionId → StopInOrder w positionId) (h : tightenDue failure due w = (.ok (), w')) :
    (∀ positionId, managed positionId → StopInOrder w' positionId) ↔ AllReplaced failure due w := by
  induction due generalizing w with
  | nil =>
    cases h
    exact iff_of_true horder trivial
  | cons pt rest ih =>
    obtain ⟨p, t⟩ := pt
    obtain ⟨clientOrderId, receipt, x, w₁, hreplacement, hrest⟩ := tightenDue_ok h
    obtain ⟨r, a, f, hentry, hreplaced, hready₁⟩ := hready.step hreplacement
    obtain ⟨hr, -⟩ := activeProtection_some hentry.active
    by_cases hcurrent : r.stopExchangeOrderId = some t.oldStopExchangeOrderId
    · have horder₁ : ∀ positionId, managed positionId → StopInOrder w₁ positionId :=
        fun positionId hpositionId => hreplaced.stopInOrder hready.ownIds hentry hcurrent (horder positionId hpositionId)
      rw [ih hready₁ (fun pt hpt => hmanaged pt (List.mem_cons_of_mem _ hpt)) horder₁ hrest]
      constructor
      · intro hall
        exact ⟨⟨r, hentry.active, hcurrent⟩, clientOrderId, receipt, x, w₁, hreplacement, hall⟩
      · rintro ⟨-, clientOrderId', receipt', x', w₂, hreplacement', hall⟩
        rw [hreplacement.unique hreplacement']
        exact hall
    · -- the stop of the active record stays open, and its record names another now
      refine iff_of_false (fun horder' => ?_) fun hall => ?_
      · obtain ⟨r', b, hactive, hopen, hnames⟩ := (horder p.positionId (hmanaged _ List.mem_cons_self)).named
        cases hentry.active.symm.trans hactive
        have hbne : b.exchangeOrderId ≠ t.oldStopExchangeOrderId := fun heq => hcurrent (heq ▸ hnames)
        have hb := hreplaced.stays b hopen.mem hbne
        have hunnamed : ∀ r₁ ∈ w₁.db.protections, r₁.stopExchangeOrderId ≠ some b.exchangeOrderId := by
          intro r₁ hr₁ hnames₁
          rcases hreplaced.of_mem hready.ownIds hr hr₁ with rfl | ⟨hold, hne⟩
          · rw [(hreplaced.stop r).1] at hnames₁
            exact hready.ownIds.unusedOrder _ (le_refl _) _ hreplaced.accepted b hopen.mem (Option.some.inj hnames₁).symm
          · exact hne (hready.ownIds.owner r₁ hold r hr _ hnames₁ hnames)
        have hkept : ∀ pt ∈ rest, pt.2.oldStopExchangeOrderId ≠ b.exchangeOrderId := by
          intro pt hpt heq
          obtain ⟨r', hother⟩ := hready₁.entries pt hpt
          obtain ⟨r'', hr'', -, hold⟩ := hother.oldStop
          rw [heq] at hold
          exact hunnamed r'' hr'' hold
        obtain ⟨r₁, hr₁, hnames₁⟩ := (horder' p.positionId (hmanaged _ List.mem_cons_self)).known b
          ⟨tightenDue_stays rest hrest hb hkept, hopen.pending, hopen.type_eq, hopen.stopId⟩
        exact stray_run rest hready₁ hrest hb hunnamed r₁ hr₁ hnames₁
      · obtain ⟨⟨r', hactive, hnames⟩, -⟩ := hall
        cases hentry.active.symm.trans hactive
        exact hcurrent hnames

/-! ## Raising -/

/-- A loop that raises did not get its first stop taken, or it leaves an open stop that no record named before. -/
theorem raised_cases (due : List (LocalPositionView × Tightening)) {w w' : World} {e : PyError} (hready : Ready w due)
    (h : tightenDue failure due w = (.error e, w')) :
    (FirstStopRefused w.exchange due ∧ w'.exchange.orders = w.exchange.orders) ∨
      (¬FirstStopRefused w.exchange due ∧ ∃ pt ∈ due, ∃ a, w'.exchange.OpenStop pt.1.positionId a ∧
        ∀ r ∈ w.db.protections, r.stopExchangeOrderId ≠ some a.exchangeOrderId) := by
  cases due with
  | nil => nomatch (Prod.mk.inj h).1
  | cons pt rest =>
    obtain ⟨p, t⟩ := pt
    -- the first new stop, once the exchange took it, is open and unknown to the end
    have htaken : ∀ {clientOrderId : String} {out : Except PyError ExchangeOrderReceipt} {x : Exchange} {id : String},
        stopClientOrderId p.positionId t.revision = .ok clientOrderId →
        submitReplacement w.exchange p t.safeStop clientOrderId = (out, x) →
        (w.exchange.behaviour w.exchange.calls).acceptedId = some id → w.exchange.gatewayError = none →
        (newStop p clientOrderId id ∈ x.orders → newStop p clientOrderId id ∈ w'.exchange.orders) →
        ¬FirstStopRefused w.exchange ((p, t) :: rest) ∧ ∃ pt ∈ (p, t) :: rest, ∃ a, w'.exchange.OpenStop pt.1.positionId a ∧
          ∀ r ∈ w.db.protections, r.stopExchangeOrderId ≠ some a.exchangeOrderId := by
      intro clientOrderId out x id hid hsubmit haccepted hgateway hstays
      refine ⟨?_, (p, t), List.mem_cons_self, newStop p clientOrderId id, ⟨hstays ?_, rfl, rfl, ⟨_, hid⟩⟩,
        fun r hr => hready.ownIds.unusedStop _ (le_refl _) id haccepted r hr⟩
      · rintro (hrefused | hrefused | hrefused)
        · rw [hid] at hrefused
          nomatch hrefused
        · exact hrefused hgateway
        · rw [haccepted] at hrefused
          nomatch hrefused
      · rcases submitReplacement_spec hsubmit with ⟨hnot, -⟩ | ⟨-, -, -, horders, -⟩
        · exact absurd hgateway hnot
        · rw [horders, haccepted]
          exact List.mem_append_right _ List.mem_cons_self
    have hgateway : ∀ {clientOrderId : String} {receipt : ExchangeOrderReceipt} {x : Exchange},
        submitReplacement w.exchange p t.safeStop clientOrderId = (.ok receipt, x) →
        w.exchange.gatewayError = none ∧
          (w.exchange.behaviour w.exchange.calls).acceptedId = some receipt.exchangeOrderId := by
      intro clientOrderId receipt x hsubmit
      rcases submitReplacement_spec hsubmit with ⟨-, -, hnone⟩ | ⟨hnone, -, -, -, hok⟩
      · exact absurd rfl (hnone receipt)
      · exact ⟨hnone, hok receipt rfl⟩
    have hunused : ∀ {id : String}, (w.exchange.behaviour w.exchange.calls).acceptedId = some id →
        ∀ pt ∈ (p, t) :: rest, pt.2.oldStopExchangeOrderId ≠ id := fun hid => hready.unusedOld (le_refl _) hid
    unfold tightenDue at h
    split at h
    · rename_i e₁ w₁ heq
      cases h
      rcases tightenStop_cases heq with ⟨e₂, -, hid, rfl⟩ | ⟨clientOrderId, hid, ⟨e₂, x, -, hsubmit, rfl⟩ | ⟨receipt, x, hsubmit, hrest⟩⟩
      · refine .inl ⟨.inl ?_, rfl⟩
        rw [hid]
        rfl
      · rcases submitReplacement_spec hsubmit with ⟨hnot, rfl, -⟩ | ⟨hgateway, -, -, horders, -⟩
        · exact .inl ⟨.inr (.inl hnot), rfl⟩
        · cases haccepted : (w.exchange.behaviour w.exchange.calls).acceptedId with
          | none =>
            rw [haccepted] at horders
            exact .inl ⟨.inr (.inr haccepted), horders.trans (List.append_nil _)⟩
          | some id => exact .inr (htaken hid hsubmit haccepted hgateway fun hmem => hmem)
      · obtain ⟨hgateway, haccepted⟩ := hgateway hsubmit
        have hne := hunused haccepted _ List.mem_cons_self
        refine .inr (htaken hid hsubmit haccepted hgateway fun hmem => ?_)
        rcases hrest with ⟨e₂, x', -, hcancel, rfl⟩ | ⟨e₂, x', -, hcancel, -, rfl⟩ | ⟨hout, -⟩
        · exact (cancelOrder_spec hcancel).1.stays _ hmem hne.symm
        · exact (cancelOrder_spec hcancel).1.stays _ hmem hne.symm
        · nomatch hout
    · rename_i w₁ heq
      rcases tightenStop_cases heq with ⟨e₂, he, -⟩ | ⟨clientOrderId, -, ⟨e₂, x, he, -⟩ | ⟨receipt, x, -, hrest⟩⟩
      · nomatch he
      · nomatch he
      · rcases hrest with ⟨e₂, x', he, -⟩ | ⟨e₂, x', he, -⟩ | ⟨-, hreplacement⟩
        · nomatch he
        · nomatch he
        · obtain ⟨hgateway, haccepted⟩ := hgateway hreplacement.submitted
          refine .inr (htaken hreplacement.clientOrderId_eq hreplacement.submitted haccepted hgateway fun hmem => ?_)
          have hmem₁ := (cancelOrder_spec hreplacement.cancelled).1.stays _ hmem (hunused haccepted _ List.mem_cons_self).symm
          exact tightenDue_stays rest h hmem₁ fun pt hpt => hunused haccepted pt (List.mem_cons_of_mem _ hpt)

end Loop

/-! ## The due tightenings of a cycle -/

section Cycle

variable {mode : V2ExecutionMode} {symbol : String} {snapshot : AuthoritativeAccountSnapshot} {tickSize : ℚ}
  {baseline : AList fun _ : String => ℚ} {w : World}

theorem dueTightenings_positions (symbol : String) (snapshot : AuthoritativeAccountSnapshot) (tickSize : ℚ)
    (views : List LocalPositionView) :
    ((dueTightenings symbol snapshot tickSize views).map (·.1.positionId)).Sublist (views.map (·.positionId)) := by
  induction views with
  | nil => exact List.Sublist.refl _
  | cons p rest ih =>
    unfold dueTightenings
    rw [List.map_cons]
    cases htightening : p.tightening symbol snapshot tickSize with
    | none =>
      rw [List.filterMap_cons_none (by rw [htightening]; rfl)]
      exact ih.cons _
    | some t =>
      rw [List.filterMap_cons_some (by rw [htightening]; rfl), List.map_cons]
      exact ih.cons_cons _

/-- What a due tightening of a cycle comes from. -/
theorem mem_due {pt : LocalPositionView × Tightening}
    (h : pt ∈ dueTightenings symbol snapshot tickSize (loadLocalState w.db mode baseline).1.positions) :
    ∃ q ∈ w.db.openPositions mode, pt.1 = w.db.localPosition q ∧ Due pt.1 symbol snapshot tickSize pt.2 := by
  obtain ⟨p, hp, hpt⟩ := List.mem_filterMap.mp h
  obtain ⟨t, ht, rfl⟩ := Option.map_eq_some_iff.mp hpt
  obtain ⟨q, hq, rfl⟩ := List.mem_map.mp hp
  exact ⟨q, hq, rfl, due_of_tightening ht⟩

theorem ready_cycle (hids : w.OwnIds) :
    Ready w (dueTightenings symbol snapshot tickSize (loadLocalState w.db mode baseline).1.positions) := by
  refine ⟨hids, fun pt hpt => ?_, ?_⟩
  · obtain ⟨q, -, heq, hdue⟩ := mem_due hpt
    obtain ⟨_, original, _, _, _, _, -, horiginal, -⟩ := hdue.decided
    rw [heq] at horiginal
    obtain ⟨r, hactive, -⟩ := Option.map_eq_some_iff.mp horiginal
    refine ⟨r, ?_, ?_, ?_⟩
    · rw [heq]
      exact hactive
    · rw [heq]
      change (w.db.activeProtection q.positionId).map (·.protectionId) = _
      rw [hactive]
      rfl
    · obtain ⟨ref, href, hstop, hold⟩ := hdue.oldStop
      rw [heq] at href
      obtain ⟨r', hr', href⟩ := List.mem_flatMap.mp href
      obtain ⟨hr', hposition⟩ := List.mem_filter.mp hr'
      refine ⟨r', hr', ?_, ?_⟩
      · rw [heq]
        exact of_decide_eq_true hposition
      · unfold ProtectionRow.orderRefs at href
        rcases List.mem_append.mp href with hleg | hleg
        · obtain ⟨id, hid, rfl⟩ := List.mem_map.mp hleg
          rw [hold]
          exact (Option.filter_eq_some_iff.mp (Option.mem_toList.mp hid)).1
        · obtain ⟨id, -, hleg⟩ := List.mem_flatMap.mp hleg
          obtain ⟨client, -, rfl⟩ := List.mem_map.mp hleg
          exact absurd hstop (show "TAKE_PROFIT" ≠ "HARD_STOP" by decide)
  · have hopen : ((w.db.openPositions mode).map (·.positionId)).Nodup :=
      List.Nodup.sublist (List.Sublist.map _ List.filter_sublist) hids.positionKeys
    have hviews : ((loadLocalState w.db mode baseline).1.positions.map (·.positionId)).Nodup := by
      change (((w.db.openPositions mode).map w.db.localPosition).map (·.positionId)).Nodup
      rw [List.map_map]
      exact hopen
    exact List.Nodup.sublist (dueTightenings_positions symbol snapshot tickSize _) hviews

/-- A position whose stop the cycle looks after. -/
def Managed (db : Database) (mode : V2ExecutionMode) (symbol positionId : String) : Prop :=
  ∃ p ∈ db.openPositions mode, p.symbol = symbol ∧ p.state ≠ .closed ∧ p.state ≠ .quarantined ∧ p.positionId = positionId

theorem stopsInOrder_iff_managed {w' : World} (h : w'.db.positions = w.db.positions) :
    StopsInOrder mode symbol w' ↔ ∀ positionId, Managed w.db mode symbol positionId → StopInOrder w' positionId := by
  unfold StopsInOrder Managed Database.openPositions
  rw [h]
  constructor
  · rintro horder _ ⟨p, hp, hsymbol, hclosed, hquarantined, rfl⟩
    exact horder p hp hsymbol hclosed hquarantined
  · intro horder p hp hsymbol hclosed hquarantined
    exact horder p.positionId ⟨p, hp, hsymbol, hclosed, hquarantined, rfl⟩

theorem managed_of_due {pt : LocalPositionView × Tightening}
    (h : pt ∈ dueTightenings symbol snapshot tickSize (loadLocalState w.db mode baseline).1.positions) :
    Managed w.db mode symbol pt.1.positionId := by
  obtain ⟨q, hq, heq, hdue⟩ := mem_due h
  have hsymbol := hdue.symbol_eq
  have hopen := hdue.isOpen
  rw [heq] at hsymbol hopen ⊢
  exact ⟨q, hq, hsymbol, hopen.1, hopen.2, rfl⟩

end Cycle

/-- A loop that returns leaves the positions. -/
theorem tightenDue_positions {failure : StoreFailure} (due : List (LocalPositionView × Tightening)) {w w' : World}
    (h : tightenDue failure due w = (.ok (), w')) : w'.db.positions = w.db.positions := by
  induction due generalizing w with
  | nil =>
    cases h
    rfl
  | cons pt rest ih =>
    obtain ⟨_, _, _, w₁, hreplacement, hrest⟩ := tightenDue_ok h
    exact (ih hrest).trans (replacement_protections hreplacement).1

/-- The orders alone decide whether the stops of a position are in order. -/
theorem stopInOrder_of_orders {db : Database} {x x' : Exchange} (h : StopInOrder ⟨db, x⟩ positionId)
    (horders : x'.orders = x.orders) : StopInOrder ⟨db, x'⟩ positionId := by
  have hopen : ∀ a, x'.OpenStop positionId a ↔ x.OpenStop positionId a := by
    intro a
    constructor
    · intro ha
      exact ⟨horders ▸ ha.mem, ha.pending, ha.type_eq, ha.stopId⟩
    · intro ha
      exact ⟨horders.symm ▸ ha.mem, ha.pending, ha.type_eq, ha.stopId⟩
  obtain ⟨r, a, hactive, ha, hnames⟩ := h.named
  exact ⟨⟨r, a, hactive, (hopen a).mpr ha, hnames⟩, fun b hb => h.known b ((hopen b).mp hb)⟩

end TighteningAux

open TighteningAux LostStopAux

/-- The stops of the managed positions are in order after `_apply_profit_protection` exactly if the exchange did not take the
first new stop, or no call raised and every tightening cancelled the stop of its active record. -/
theorem stopsInOrder_iff {mode : V2ExecutionMode} {symbol : String} {snapshot : AuthoritativeAccountSnapshot} {tickSize : ℚ}
    {baseline : AList fun _ : String => ℚ} {w : World} (failure : StoreFailure) (hids : w.OwnIds)
    (horder : StopsInOrder mode symbol w) :
    StopsInOrder mode symbol
        (applyProfitProtection w symbol snapshot (loadLocalState w.db mode baseline).1 tickSize failure).2 ↔
      FirstStopRefused w.exchange
          (dueTightenings symbol snapshot tickSize (loadLocalState w.db mode baseline).1.positions) ∨
        AllReplaced failure (dueTightenings symbol snapshot tickSize (loadLocalState w.db mode baseline).1.positions) w := by
  have hready : Ready w (dueTightenings symbol snapshot tickSize (loadLocalState w.db mode baseline).1.positions) :=
    ready_cycle hids
  have hmanaged : ∀ pt ∈ dueTightenings symbol snapshot tickSize (loadLocalState w.db mode baseline).1.positions,
      Managed w.db mode symbol pt.1.positionId := fun pt => managed_of_due
  rw [stopsInOrder_iff_managed rfl] at horder
  unfold applyProfitProtection
  rw [tightenStops_eq]
  generalize dueTightenings symbol snapshot tickSize (loadLocalState w.db mode baseline).1.positions = due at hready hmanaged ⊢
  rcases hrun : tightenDue failure due w with ⟨out, w'⟩
  cases out with
  | ok _ =>
    rw [stopsInOrder_iff_managed (tightenDue_positions due hrun), returned_iff _ due hready hmanaged horder hrun]
    refine ⟨.inr, fun h => h.elim (fun hrefused => ?_) id⟩
    cases due with
    | nil => trivial
    | cons pt rest =>
      -- the first stop was taken
      obtain ⟨clientOrderId, receipt, x, w₁, hreplacement, -⟩ := tightenDue_ok hrun
      exfalso
      rcases submitReplacement_spec hreplacement.submitted with ⟨-, -, hnone⟩ | ⟨hgateway, -, -, -, hok⟩
      · exact hnone receipt rfl
      · rcases hrefused with hid | hnot | hnone
        · rw [hreplacement.clientOrderId_eq] at hid
          nomatch hid
        · exact hnot hgateway
        · rw [hok receipt rfl] at hnone
          nomatch hnone
  | error e =>
    rw [stopsInOrder_iff_managed rfl]
    rcases raised_cases due hready hrun with ⟨hrefused, horders⟩ | ⟨hnot, pt, hpt, a, hopen, hunnamed⟩
    · exact iff_of_true (fun positionId hpositionId => stopInOrder_of_orders (horder positionId hpositionId) horders) (.inl hrefused)
    · refine iff_of_false (fun horder' => ?_) ?_
      · obtain ⟨r, hr, hnames⟩ := (horder' _ (hmanaged pt hpt)).known a
          ⟨hopen.mem, hopen.pending, hopen.type_eq, hopen.stopId⟩
        exact hunnamed r hr hnames
      · rintro (hrefused | hall)
        · exact hnot hrefused
        · obtain ⟨w₁, hdone⟩ := allReplaced_ok hall
          rw [hrun] at hdone
          nomatch (Prod.mk.inj hdone).1

/-! ## A cancellation that fails -/

namespace TighteningAux

/-- The exchange takes the new stop and refuses everything after it. -/
def halfwayExchange : Exchange where
  orders :=
    [newStop (filledRecords.localPosition (filledRecords.positions.head (by decide))) filledPlan.stopClientOrderId "1"]
  behaviour := fun n => if n = 0 then .answered "3" true (some "open") else .refused "down"

/-- The position of `filledRecords` at this exchange. -/
def halfwayWorld : World := { db := filledRecords, exchange := halfwayExchange }

theorem halfwayWorld_ownIds : halfwayWorld.OwnIds := by
  have hid : ∀ n id, (halfwayExchange.behaviour n).acceptedId = some id → n = 0 ∧ id = "3" := by
    intro n id h
    unfold halfwayExchange at h
    dsimp only at h
    split at h
    · exact ⟨by assumption, (Option.some.inj h).symm⟩
    · nomatch h
  refine ⟨by decide, by decide, by decide, fun n _ id h => ?_, fun n _ id h => ?_, fun m n id _ _ hm hn => ?_⟩
  · rw [(hid n id h).2]
    decide
  · rw [(hid n id h).2]
    decide
  · rw [(hid m id hm).1, (hid n id hn).1]

theorem halfwayWorld_inOrder : StopsInOrder .binanceTestnet "BTCUSDT" halfwayWorld := by
  have hopen : halfwayExchange.OpenStop "position-1" (halfwayExchange.orders.head (by decide)) :=
    ⟨List.head_mem _, rfl, rfl, 1, by decide +kernel⟩
  intro p hp _ _ _
  obtain rfl : p = filledRecords.positions.head (by decide) := by
    have hmem := (List.mem_filter.mp hp).1
    exact List.mem_singleton.mp hmem
  refine ⟨⟨_, _, rfl, hopen, rfl⟩, fun a ha => ?_⟩
  obtain rfl : a = halfwayExchange.orders.head (by decide) := List.mem_singleton.mp ha.mem
  exact ⟨_, List.mem_singleton_self _, rfl⟩

/-- After the cycle an open stop is named by no record. -/
theorem halfway_unnamed :
    (applyProfitProtection halfwayWorld "BTCUSDT" (openAccount (1007 / 10)) (loadLocalState filledRecords .binanceTestnet).1
      (1 / 1000)).2.exchange.orders.any (fun a => decide (a.status = .pending) && decide (a.request.type = .stopMarket) &&
        decide (stopClientOrderId "position-1" 3 = .ok a.request.newClientOrderId) &&
        (applyProfitProtection halfwayWorld "BTCUSDT" (openAccount (1007 / 10)) (loadLocalState filledRecords .binanceTestnet).1
          (1 / 1000)).2.db.protections.all fun r => decide (r.stopExchangeOrderId ≠ some a.exchangeOrderId)) = true := by
  decide +kernel

theorem halfway_outOfOrder :
    ¬StopsInOrder .binanceTestnet "BTCUSDT" (applyProfitProtection halfwayWorld "BTCUSDT" (openAccount (1007 / 10))
      (loadLocalState halfwayWorld.db .binanceTestnet).1 (1 / 1000)).2 := by
  intro horder
  obtain ⟨a, ha, hstray⟩ := List.any_eq_true.mp halfway_unnamed
  simp only [Bool.and_eq_true, decide_eq_true_eq, List.all_eq_true] at hstray
  obtain ⟨⟨⟨hpending, htype⟩, hid⟩, hunnamed⟩ := hstray
  rw [stopsInOrder_iff_managed (show _ = halfwayWorld.db.positions by decide +kernel)] at horder
  obtain ⟨r, hr, hnames⟩ := (horder "position-1" ⟨_, List.mem_singleton_self _, rfl, by decide, by decide, rfl⟩).known a
    ⟨ha, hpending, htype, 3, hid⟩
  exact hunnamed r hr hnames

end TighteningAux

/-- A cancellation that raises leaves a second open stop that no record names. -/
theorem stopsInOrder_false :
    ¬∀ (mode : V2ExecutionMode) (symbol : String) (snapshot : AuthoritativeAccountSnapshot) (tickSize : ℚ)
      (baseline : AList fun _ : String => ℚ) (w : World) (failure : StoreFailure), w.OwnIds → StopsInOrder mode symbol w →
        StopsInOrder mode symbol
          (applyProfitProtection w symbol snapshot (loadLocalState w.db mode baseline).1 tickSize failure).2 := by
  exact fun h => halfway_outOfOrder (h .binanceTestnet "BTCUSDT" (openAccount (1007 / 10)) (1 / 1000) ∅ halfwayWorld
    noStoreFailure halfwayWorld_ownIds halfwayWorld_inOrder)

/-- The cycle in which the cancellation raises: its stops are not all replaced. -/
theorem stopsInOrder_iff_halfway :
    ¬AllReplaced noStoreFailure (dueTightenings "BTCUSDT" (openAccount (1007 / 10)) (1 / 1000)
      (loadLocalState halfwayWorld.db .binanceTestnet).1.positions) halfwayWorld := fun hall =>
  halfway_outOfOrder ((stopsInOrder_iff noStoreFailure halfwayWorld_ownIds halfwayWorld_inOrder).mpr (.inr hall))

end TradingPlatform
