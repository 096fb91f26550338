import Mathlib.Data.List.Perm.Subperm
import TradingPlatform.Engine.MarketDataHeartbeat

/-!
# When stale data blocks a symbol

Checks keep one open event for a symbol whose data is stale: the first stale check raises it, later ones leave it until it expires,
and a fresh check of any timeframe resolves it. The table says the same of every symbol, although a page of events is cut before
the expired ones are left out, as long as no more symbols are checked than a page has events.
-/

namespace TradingPlatform

/-! ## Statements -/

/-- What the checks have made of the symbols: the bars that came in, the ids that were drawn, and for each symbol the instant and
the id of the event that was raised last and neither resolved nor closed. -/
structure StaleHistory where
  stored : List OhlcvKey := []
  drawn : ℕ := 0
  raised : String → Option (ℤ × ℕ) := fun _ => none

/-- A candle of the symbol closed within the delay. -/
def StaleHistory.Fresh (h : StaleHistory) (check : HeartbeatCheck) (duration : ℤ) : Prop :=
  ∃ k ∈ h.stored, k.symbol = check.symbol ∧ k.timeframe = check.timeframe ∧ check.now - check.maxDelay ≤ k.time + duration ∧
    k.time + duration ≤ check.now

instance (h : StaleHistory) (check : HeartbeatCheck) (duration : ℤ) : Decidable (h.Fresh check duration) :=
  inferInstanceAs (Decidable (∃ k ∈ h.stored, _))

/-- A stale check keeps the event that has not expired, or raises one. -/
def StaleHistory.stale (h : StaleHistory) (check : HeartbeatCheck) : StaleHistory :=
  if ∃ r ∈ h.raised check.symbol, check.listedAt ≤ r.1 + staleHours then h
  else { h with drawn := h.drawn + 1, raised := Function.update h.raised check.symbol (some (check.now, h.drawn)) }

/-- A call. -/
def StaleHistory.step (isPostgres : Bool) (h : StaleHistory) : DataOp → StaleHistory
  | .bars batch => if DataStore.accepts isPostgres batch then { h with stored := batch ++ h.stored } else h
  | .check check =>
    match timeframeToDelta check.timeframe with
    | none => h
    | some duration =>
      if h.Fresh check duration then { h with raised := Function.update h.raised check.symbol none } else h.stale check
  | .event _ => { h with drawn := h.drawn + 1 }
  | .close id _ => { h with raised := fun x => (h.raised x).filter fun r => decide (r.2 ≠ id) }

/-- Calls, one after another. -/
def StaleHistory.run (isPostgres : Bool) (h : StaleHistory) (ops : List DataOp) : StaleHistory :=
  ops.foldl (StaleHistory.step isPostgres) h

/-- Calls by a clock that does not go back: it is read where a check lists the events, and the reference time of a check is any. The
checks are of some symbols, the other services raise other events, and an event is closed for good. -/
def DataOp.Admitted (symbols : List String) (clock : ℤ) : DataOp → Prop
  | .bars _ => True
  | .check c => clock ≤ c.listedAt ∧ c.symbol ∈ symbols
  | .event e => e.eventType ≠ "data_stale"
  | .close _ resolutionStatus => resolutionStatus ≠ "detected" ∧ resolutionStatus ≠ "acknowledged"

/-- The clock after a call. -/
def DataOp.clock (clock : ℤ) : DataOp → ℤ
  | .check c => c.listedAt
  | _ => clock

/-- Admitted calls, one after another. -/
def Timed (symbols : List String) (clock : ℤ) : List DataOp → Prop
  | [] => True
  | op :: ops => op.Admitted symbols clock ∧ Timed symbols (op.clock clock) ops

namespace HeartbeatAux

variable {symbols : List String} {clock clock' : ℤ} {s : DataStore} {h h' : StaleHistory} {check : HeartbeatCheck}
  {e : RiskEventRow} {x : String}

/-! ## The table and the history -/

/-- An open event of stale data of a symbol. -/
def StaleOf (e : RiskEventRow) (x : String) : Prop :=
  e.eventType = "data_stale" ∧ e.isOpen = true ∧ e.affectedSymbols = some [x]

/-- The rows are those of the history. -/
structure Linked (symbols : List String) (clock : ℤ) (s : DataStore) (h : StaleHistory) : Prop where
  bars : ∀ k, k ∈ s.bars ↔ k ∈ h.stored
  drawn : h.drawn = s.riskEvents.length
  ids : s.riskEvents.map RiskEventRow.id = List.range s.riskEvents.length
  shape : ∀ e ∈ s.riskEvents, e.eventType = "data_stale" → e.level = "high" ∧ e.expiresAt = some (e.createdAt + staleHours) ∧
    ∃ x ∈ symbols, e.affectedSymbols = some [x]
  live : ∀ e ∈ s.riskEvents, ∀ x, StaleOf e x → clock ≤ e.createdAt + staleHours → h.raised x = some (e.createdAt, e.id)
  raised : ∀ x r, h.raised x = some r → clock ≤ r.1 + staleHours →
    ∃ e ∈ s.riskEvents, StaleOf e x ∧ e.createdAt = r.1 ∧ e.id = r.2

theorem Linked.later (hl : Linked symbols clock s h) (hclock : clock ≤ clock') : Linked symbols clock' s h :=
  { hl with
    live := fun e he x hx hunexpired => hl.live e he x hx (hclock.trans hunexpired)
    raised := fun x r hr hunexpired => hl.raised x r hr (hclock.trans hunexpired) }

theorem Linked.nodup (hl : Linked symbols clock s h) : (s.riskEvents.map RiskEventRow.id).Nodup := by
  rw [hl.ids]
  exact List.nodup_range

/-- A symbol has one open event that has not expired. -/
theorem Linked.unique (hl : Linked symbols clock s h) {e e' : RiskEventRow} (he : e ∈ s.riskEvents) (he' : e' ∈ s.riskEvents)
    (hx : StaleOf e x) (hx' : StaleOf e' x) (hunexpired : clock ≤ e.createdAt + staleHours)
    (hunexpired' : clock ≤ e'.createdAt + staleHours) : e = e' := by
  have hsame := (hl.live e he x hx hunexpired).symm.trans (hl.live e' he' x hx' hunexpired')
  exact List.inj_on_of_nodup_map hl.nodup he he' (congrArg Prod.snd (Option.some.inj hsame))

theorem expired_iff (hexpires : e.expiresAt = some (e.createdAt + staleHours)) (now : ℤ) :
    e.expired now = false ↔ now ≤ e.createdAt + staleHours := by
  simp [RiskEventRow.expired, hexpires]

/-- A page holds every event of stale data that has not expired: what comes before one was raised later, so it has not expired
either, and each is of another symbol. -/
theorem mem_page (hl : Linked symbols clock s h) (hlimit : symbols.length ≤ 5000) (he : e ∈ s.riskEvents) (hx : StaleOf e x)
    (hunexpired : clock ≤ e.createdAt + staleHours) :
    e ∈ ((s.riskEvents.filter fun e => decide (e.eventType = "data_stale") && e.isOpen).insertionSort
      fun a b => b.createdAt ≤ a.createdAt).take 5000 := by
  have hopen : ∀ a ∈ s.riskEvents.filter fun e => decide (e.eventType = "data_stale") && e.isOpen,
      a ∈ s.riskEvents ∧ a.eventType = "data_stale" ∧ a.isOpen = true := by
    intro a ha
    obtain ⟨hmem, hkind⟩ := List.mem_filter.mp ha
    exact ⟨hmem, by simpa using hkind⟩
  have hperm := List.perm_insertionSort (fun a b : RiskEventRow => b.createdAt ≤ a.createdAt)
    (s.riskEvents.filter fun e => decide (e.eventType = "data_stale") && e.isOpen)
  have hsorted : ((s.riskEvents.filter fun e => decide (e.eventType = "data_stale") && e.isOpen).insertionSort
      fun a b => b.createdAt ≤ a.createdAt).Pairwise fun a b => b.createdAt ≤ a.createdAt := by
    have : Std.Total fun a b : RiskEventRow => b.createdAt ≤ a.createdAt := ⟨fun a b => le_total _ _⟩
    have : IsTrans RiskEventRow fun a b => b.createdAt ≤ a.createdAt := ⟨fun a b c hab hbc => hbc.trans hab⟩
    exact List.pairwise_insertionSort _ _
  have hmem : e ∈ (s.riskEvents.filter fun e => decide (e.eventType = "data_stale") && e.isOpen).insertionSort
      fun a b => b.createdAt ≤ a.createdAt :=
    hperm.mem_iff.mpr (List.mem_filter.mpr ⟨he, by simp [hx.1, hx.2.1]⟩)
  obtain ⟨pre, post, hsplit⟩ := List.append_of_mem hmem
  rw [hsplit] at hperm hsorted ⊢
  have hsub : (pre ++ [e]).Sublist (pre ++ e :: post) :=
    (List.Sublist.refl pre).append (List.singleton_sublist.mpr List.mem_cons_self)
  have hearlier : ∀ a ∈ pre ++ [e], a ∈ s.riskEvents ∧ clock ≤ a.createdAt + staleHours ∧
      ∃ y ∈ symbols, StaleOf a y := by
    intro a ha
    obtain ⟨hrow, htype, hisOpen⟩ := hopen a (hperm.mem_iff.mp (hsub.subset ha))
    obtain ⟨-, -, y, hy, haffected⟩ := hl.shape a hrow htype
    refine ⟨hrow, ?_, y, hy, htype, hisOpen, haffected⟩
    rcases List.mem_append.mp ha with hpre | hself
    · have hlater := (List.pairwise_append.mp hsorted).2.2 a hpre e List.mem_cons_self
      omega
    · rw [List.mem_singleton.mp hself]
      exact hunexpired
  have hnodup : (pre ++ [e]).Nodup := by
    have hrows := (List.Nodup.of_map _ hl.nodup).filter fun e => decide (e.eventType = "data_stale") && e.isOpen
    exact (hperm.nodup_iff.mpr hrows).sublist hsub
  have hdistinct : ((pre ++ [e]).map RiskEventRow.affectedSymbols).Nodup := by
    refine List.Nodup.map_on (fun a ha b hb heq => ?_) hnodup
    obtain ⟨har, haunexpired, y, -, hay⟩ := hearlier a ha
    obtain ⟨hbr, hbunexpired, y', -, hby⟩ := hearlier b hb
    have hyy : y = y' := by
      have hboth := hay.2.2.symm.trans (heq.trans hby.2.2)
      simpa using hboth
    exact hl.unique har hbr hay (hyy ▸ hby) haunexpired hbunexpired
  have hlength : (pre ++ [e]).length ≤ symbols.length := by
    have hsubset : (pre ++ [e]).map RiskEventRow.affectedSymbols ⊆ symbols.map fun y => some [y] := by
      intro l hin
      obtain ⟨a, ha, rfl⟩ := List.mem_map.mp hin
      obtain ⟨-, -, y, hy, hay⟩ := hearlier a ha
      exact List.mem_map.mpr ⟨y, hy, hay.2.2.symm⟩
    have hle := (List.Nodup.subperm hdistinct hsubset).length_le
    simpa using hle
  rw [List.length_append, List.length_singleton] at hlength
  rw [List.take_append]
  refine List.mem_append_right _ ?_
  have hpositive : 5000 - pre.length = (5000 - pre.length - 1) + 1 := by omega
  rw [hpositive, List.take_succ_cons]
  exact List.mem_cons_self

/-- What a check lists: the open events of its symbol that have not expired. -/
theorem mem_activeFor (hl : Linked symbols check.listedAt s h) (hlimit : symbols.length ≤ 5000) :
    e ∈ s.activeFor check ↔ e ∈ s.riskEvents ∧ StaleOf e check.symbol ∧ check.listedAt ≤ e.createdAt + staleHours := by
  unfold DataStore.activeFor DataStore.listActiveRiskEventsByType
  constructor
  · intro hmem
    obtain ⟨hmem, haffected⟩ := List.mem_filter.mp hmem
    obtain ⟨hmem, hexpired⟩ := List.mem_filter.mp hmem
    have hrow := (List.perm_insertionSort _ _).mem_iff.mp (List.mem_of_mem_take hmem)
    obtain ⟨hrow, hkind⟩ := List.mem_filter.mp hrow
    rw [Bool.and_eq_true, decide_eq_true_iff] at hkind
    have hexpires := (hl.shape e hrow hkind.1).2.1
    exact ⟨hrow, ⟨hkind.1, hkind.2, of_decide_eq_true haffected⟩, (expired_iff hexpires _).mp (by simpa using hexpired)⟩
  · rintro ⟨hrow, hx, hunexpired⟩
    have hexpires := (hl.shape e hrow hx.1).2.1
    refine List.mem_filter.mpr ⟨List.mem_filter.mpr ⟨mem_page hl hlimit hrow hx hunexpired, ?_⟩, by simp [hx.2.2]⟩
    simpa using (expired_iff hexpires _).mpr hunexpired

/-- The latest closed candle is within the delay exactly when some candle is. -/
theorem isFresh_iff (hbars : ∀ k, k ∈ s.bars ↔ k ∈ h.stored) (duration : ℤ) :
    s.isFresh check.symbol check.timeframe duration check.now check.maxDelay = true ↔ h.Fresh check duration := by
  unfold DataStore.isFresh StaleHistory.Fresh
  have hclosed : ∀ t, t ∈ (s.bars.filter fun k => decide (k.symbol = check.symbol ∧ k.timeframe = check.timeframe ∧
      k.time ≤ check.now - duration)).map OhlcvKey.time ↔ ∃ k ∈ h.stored, k.symbol = check.symbol ∧
        k.timeframe = check.timeframe ∧ k.time + duration ≤ check.now ∧ k.time = t := by
    intro t
    simp only [List.mem_map, List.mem_filter, decide_eq_true_eq, hbars]
    constructor
    · rintro ⟨k, ⟨hk, hsymbol, htimeframe, htime⟩, heq⟩
      exact ⟨k, hk, hsymbol, htimeframe, by omega, heq⟩
    · rintro ⟨k, hk, hsymbol, htimeframe, htime, heq⟩
      exact ⟨k, ⟨hk, hsymbol, htimeframe, by omega⟩, heq⟩
  dsimp only
  cases hmax : ((s.bars.filter fun k => decide (k.symbol = check.symbol ∧ k.timeframe = check.timeframe ∧
      k.time ≤ check.now - duration)).map OhlcvKey.time).max? with
  | none =>
    rw [List.max?_eq_none_iff] at hmax
    constructor
    · intro hfalse
      cases hfalse
    · rintro ⟨k, hk, hsymbol, htimeframe, -, htime⟩
      have hin := (hclosed k.time).mpr ⟨k, hk, hsymbol, htimeframe, htime, rfl⟩
      rw [hmax] at hin
      cases hin
  | some latest =>
    obtain ⟨hin, hle⟩ := List.max?_eq_some_iff.mp hmax
    obtain ⟨k, hk, hsymbol, htimeframe, hclose, htime⟩ := (hclosed latest).mp hin
    dsimp only
    rw [decide_eq_true_iff]
    constructor
    · rintro ⟨-, hdelay⟩
      exact ⟨k, hk, hsymbol, htimeframe, by rw [htime]; omega, hclose⟩
    · rintro ⟨k', hk', hsymbol', htimeframe', hdelay, hclose'⟩
      have hlatest := hle k'.time ((hclosed k'.time).mpr ⟨k', hk', hsymbol', htimeframe', hclose', rfl⟩)
      omega

/-! ## What a call keeps -/

/-- The table with some events closed. -/
def closing (s : DataStore) (resolutionStatus : String) (ids : List ℕ) : DataStore :=
  { s with riskEvents := s.riskEvents.map fun e => if e.id ∈ ids then { e with resolutionStatus } else e }

theorem closing_nil (resolutionStatus : String) : closing s resolutionStatus [] = s := by
  simp [closing]

theorem closing_update (resolutionStatus : String) (id : ℕ) (ids : List ℕ) :
    closing (s.updateRiskEventResolution id resolutionStatus) resolutionStatus ids = closing s resolutionStatus (id :: ids) := by
  unfold closing DataStore.updateRiskEventResolution Table.modify
  simp only [List.map_map, DataStore.mk.injEq, true_and]
  refine List.map_congr_left fun e _ => ?_
  by_cases hid : e.id = id
  · by_cases hids : id ∈ ids <;> simp [hid, hids]
  · by_cases hids : e.id ∈ ids <;> simp [hid, hids]

theorem foldl_resolve (l : List RiskEventRow) :
    l.foldl (fun s e => s.updateRiskEventResolution e.id "resolved") s = closing s "resolved" (l.map RiskEventRow.id) := by
  induction l generalizing s with
  | nil => exact (closing_nil _).symm
  | cons e l ih => rw [List.foldl_cons, ih, closing_update, List.map_cons]

theorem linked_closing {resolutionStatus : String} {ids : List ℕ} (hl : Linked symbols clock s h)
    (hclosed : resolutionStatus ≠ "detected" ∧ resolutionStatus ≠ "acknowledged") (hstored : h'.stored = h.stored)
    (hdrawn : h'.drawn = h.drawn)
    (hkept : ∀ x r, h'.raised x = some r → h.raised x = some r ∧ (clock ≤ r.1 + staleHours → r.2 ∉ ids))
    (hstays : ∀ x r, h.raised x = some r → clock ≤ r.1 + staleHours → r.2 ∉ ids → h'.raised x = some r) :
    Linked symbols clock (closing s resolutionStatus ids) h' := by
  have hrow : ∀ e ∈ (closing s resolutionStatus ids).riskEvents, ∃ e' ∈ s.riskEvents,
      (e'.id ∉ ids ∧ e = e') ∨ (e'.id ∈ ids ∧ e = { e' with resolutionStatus }) := by
    intro e he
    obtain ⟨e', he', rfl⟩ := List.mem_map.mp he
    by_cases hid : e'.id ∈ ids
    · exact ⟨e', he', .inr ⟨hid, if_pos hid⟩⟩
    · exact ⟨e', he', .inl ⟨hid, if_neg hid⟩⟩
  constructor
  · intro k
    rw [hstored]
    exact hl.bars k
  · rw [hdrawn, hl.drawn]
    simp [closing]
  · have hmap : (closing s resolutionStatus ids).riskEvents.map RiskEventRow.id = s.riskEvents.map RiskEventRow.id := by
      simp only [closing, List.map_map]
      refine List.map_congr_left fun e _ => ?_
      by_cases hid : e.id ∈ ids <;> simp [hid]
    rw [hmap, hl.ids]
    simp [closing]
  · intro e he htype
    obtain ⟨e', he', ⟨-, rfl⟩ | ⟨-, rfl⟩⟩ := hrow e he
    · exact hl.shape e he' htype
    · exact hl.shape e' he' htype
  · intro e he x hx hunexpired
    obtain ⟨e', he', ⟨hid, rfl⟩ | ⟨-, rfl⟩⟩ := hrow e he
    · exact hstays x _ (hl.live e he' x hx hunexpired) hunexpired hid
    · have hopen := hx.2.1
      simp [RiskEventRow.isOpen, hclosed.1, hclosed.2] at hopen
  · intro x r hr hunexpired
    obtain ⟨hr, hids⟩ := hkept x r hr
    obtain ⟨e, he, hx, hcreated, hid⟩ := hl.raised x r hr hunexpired
    refine ⟨e, List.mem_map.mpr ⟨e, he, if_neg ?_⟩, hx, hcreated, hid⟩
    rw [hid]
    exact hids hunexpired

theorem linked_event (hl : Linked symbols clock s h) (htype : e.eventType ≠ "data_stale") :
    Linked symbols clock (s.storeRiskEvent e) { h with drawn := h.drawn + 1 } := by
  constructor
  · exact hl.bars
  · simp [DataStore.storeRiskEvent, hl.drawn]
  · simp [DataStore.storeRiskEvent, hl.ids, List.range_succ]
  · intro e' he' htype'
    rcases List.mem_append.mp he' with he' | he'
    · exact hl.shape e' he' htype'
    · rw [List.mem_singleton.mp he'] at htype'
      exact absurd htype' htype
  · intro e' he' x hx
    rcases List.mem_append.mp he' with he' | he'
    · exact hl.live e' he' x hx
    · rw [List.mem_singleton.mp he'] at hx
      exact absurd hx.1 htype
  · intro x r hr hunexpired
    obtain ⟨e', he', hrest⟩ := hl.raised x r hr hunexpired
    exact ⟨e', List.mem_append_left _ he', hrest⟩

/-- A stale check of a symbol that has no event. -/
theorem linked_raise (hl : Linked symbols check.listedAt s h) (hsymbol : check.symbol ∈ symbols)
    (hnone : ∀ e ∈ s.riskEvents, StaleOf e check.symbol → ¬check.listedAt ≤ e.createdAt + staleHours) :
    Linked symbols check.listedAt (s.storeRiskEvent (staleEvent check.symbol check.timeframe check.now))
      { h with drawn := h.drawn + 1, raised := Function.update h.raised check.symbol (some (check.now, h.drawn)) } := by
  constructor
  · exact hl.bars
  · simp [DataStore.storeRiskEvent, hl.drawn]
  · simp [DataStore.storeRiskEvent, hl.ids, List.range_succ]
  · intro e he htype
    rcases List.mem_append.mp he with he | he
    · exact hl.shape e he htype
    · rw [List.mem_singleton.mp he]
      exact ⟨rfl, rfl, check.symbol, hsymbol, rfl⟩
  · intro e he x hx hunexpired
    rcases List.mem_append.mp he with he | he
    · have hne : x ≠ check.symbol := by
        rintro rfl
        exact hnone e he hx hunexpired
      dsimp only
      rw [Function.update_of_ne hne]
      exact hl.live e he x hx hunexpired
    · rw [List.mem_singleton.mp he] at hx ⊢
      have hsame : x = check.symbol := by
        have haffected := hx.2.2
        simp only [staleEvent, Option.some.injEq, List.cons.injEq, and_true] at haffected
        exact haffected.symm
      dsimp only
      rw [hsame, Function.update_self, hl.drawn]
      rfl
  · intro x r hr hunexpired
    dsimp only at hr
    by_cases hx : x = check.symbol
    · subst hx
      rw [Function.update_self, Option.some.injEq] at hr
      subst hr
      refine ⟨_, List.mem_concat_self, ⟨rfl, rfl, rfl⟩, rfl, ?_⟩
      exact hl.drawn.symm
    · rw [Function.update_of_ne hx] at hr
      obtain ⟨e, he, hrest⟩ := hl.raised x r hr hunexpired
      exact ⟨e, List.mem_append_left _ he, hrest⟩

theorem linked_check (hl : Linked symbols clock s h) (hlimit : symbols.length ≤ 5000)
    (hadmitted : (DataOp.check check).Admitted symbols clock) :
    Linked symbols check.listedAt (s.checkSymbol check) (h.step s.isPostgres (.check check)) := by
  obtain ⟨hclock, hsymbol⟩ := hadmitted
  have hlater := hl.later hclock
  unfold DataStore.checkSymbol
  simp only [StaleHistory.step]
  cases htimeframe : timeframeToDelta check.timeframe with
  | none => exact hlater
  | some duration =>
    dsimp only
    by_cases hfresh : h.Fresh check duration
    · rw [if_pos hfresh, if_pos ((isFresh_iff hl.bars duration).mpr hfresh), foldl_resolve]
      refine linked_closing hlater (by decide) rfl rfl (fun x r hr => ?_) fun x r hr hunexpired hids => ?_
      · dsimp only at hr
        by_cases hx : x = check.symbol
        · rw [hx, Function.update_self] at hr
          cases hr
        · rw [Function.update_of_ne hx] at hr
          refine ⟨hr, fun hunexpired hin => hx ?_⟩
          obtain ⟨e, he, hid⟩ := List.mem_map.mp hin
          obtain ⟨hrow, hstale, -⟩ := (mem_activeFor hlater hlimit).mp he
          obtain ⟨e', he', hx', -, hid'⟩ := hlater.raised x r hr hunexpired
          have hsame := List.inj_on_of_nodup_map hlater.nodup hrow he' (hid.trans hid'.symm)
          have hboth := hx'.2.2.symm.trans (hsame ▸ hstale.2.2)
          simpa using hboth
      · have hx : x ≠ check.symbol := by
          rintro rfl
          obtain ⟨e, he, hx, hcreated, hid⟩ := hlater.raised _ r hr hunexpired
          exact hids (List.mem_map.mpr ⟨e, (mem_activeFor hlater hlimit).mpr ⟨he, hx, hcreated ▸ hunexpired⟩, hid⟩)
        dsimp only
        rw [Function.update_of_ne hx]
        exact hr
    · rw [if_neg hfresh, if_neg fun hf => hfresh ((isFresh_iff hl.bars duration).mp hf)]
      unfold StaleHistory.stale
      by_cases hraised : ∃ r ∈ h.raised check.symbol, check.listedAt ≤ r.1 + staleHours
      · rw [if_pos hraised]
        obtain ⟨r, hr, hunexpired⟩ := hraised
        obtain ⟨e, he, hx, hcreated, -⟩ := hlater.raised _ r hr hunexpired
        have hmem := (mem_activeFor hlater hlimit).mpr ⟨he, hx, hcreated ▸ hunexpired⟩
        rw [if_neg (List.ne_nil_of_mem hmem)]
        exact hlater
      · rw [if_neg hraised]
        have hnone : ∀ e ∈ s.riskEvents, StaleOf e check.symbol → ¬check.listedAt ≤ e.createdAt + staleHours :=
          fun e he hx hunexpired => hraised ⟨_, hlater.live e he _ hx hunexpired, hunexpired⟩
        have hnil : s.activeFor check = [] := by
          refine List.eq_nil_iff_forall_not_mem.mpr fun e he => ?_
          obtain ⟨hrow, hx, hunexpired⟩ := (mem_activeFor hlater hlimit).mp he
          exact hnone e hrow hx hunexpired
        rw [if_pos hnil]
        exact linked_raise hlater hsymbol hnone

theorem isPostgres_step (s : DataStore) (op : DataOp) : (s.step op).isPostgres = s.isPostgres := by
  have hfold : ∀ (l : List RiskEventRow) (s : DataStore),
      (l.foldl (fun s e => s.updateRiskEventResolution e.id "resolved") s).isPostgres = s.isPostgres := by
    intro l s
    rw [foldl_resolve]
    rfl
  cases op with
  | bars batch =>
    simp only [DataStore.step, DataStore.storeOhlcvBars]
    split <;> rfl
  | check check =>
    simp only [DataStore.step, DataStore.checkSymbol]
    split
    · rfl
    · split
      · exact hfold _ s
      · split <;> rfl
  | event e => rfl
  | close id resolutionStatus => rfl

theorem mem_foldl_insert (batch bars : List OhlcvKey) (k : OhlcvKey) :
    k ∈ batch.foldl (fun bars k => bars.insert k) bars ↔ k ∈ batch ∨ k ∈ bars := by
  induction batch generalizing bars with
  | nil => simp
  | cons b batch ih =>
    rw [List.foldl_cons, ih, List.mem_insert_iff, List.mem_cons, or_left_comm, or_assoc]

theorem linked_step (hl : Linked symbols clock s h) (hlimit : symbols.length ≤ 5000) {op : DataOp}
    (hadmitted : op.Admitted symbols clock) :
    Linked symbols (op.clock clock) (s.step op) (h.step s.isPostgres op) := by
  cases op with
  | bars batch =>
    simp only [DataStore.step, DataStore.storeOhlcvBars, StaleHistory.step, DataOp.clock]
    by_cases haccepts : DataStore.accepts s.isPostgres batch = true
    · rw [if_pos haccepts, if_pos haccepts]
      refine { hl with bars := fun k => ?_ }
      rw [mem_foldl_insert, List.mem_append, hl.bars]
    · rw [if_neg haccepts, if_neg haccepts]
      exact hl
  | check check => exact linked_check hl hlimit hadmitted
  | event e => exact linked_event hl hadmitted
  | close id resolutionStatus =>
    have hone : s.updateRiskEventResolution id resolutionStatus = closing s resolutionStatus [id] := by
      have hupdate := closing_update (s := s) resolutionStatus id []
      rwa [closing_nil] at hupdate
    simp only [DataStore.step, hone]
    refine linked_closing hl hadmitted rfl rfl (fun x r hr => ?_) fun x r hr _ hids => ?_
    · obtain ⟨hr, hid⟩ := Option.filter_eq_some_iff.mp hr
      exact ⟨hr, fun _ => by simpa using hid⟩
    · exact Option.filter_eq_some_iff.mpr ⟨hr, by simpa using hids⟩

theorem linked_run (hl : Linked symbols clock s h) (hlimit : symbols.length ≤ 5000) {ops : List DataOp}
    (hops : Timed symbols clock ops) :
    Linked symbols (ops.foldl DataOp.clock clock) (s.run ops) (h.run s.isPostgres ops) := by
  induction ops generalizing s h clock with
  | nil => exact hl
  | cons op ops ih =>
    have hnext := ih (linked_step hl hlimit hops.1) hops.2
    rwa [isPostgres_step] at hnext

theorem linked_empty (isPostgres : Bool) : Linked symbols clock { isPostgres } {} := by
  constructor <;> simp

/-- The event of a symbol blocks it, and no other one, until it expires. -/
theorem blocks_stale (hl : Linked symbols clock s h) (he : e ∈ s.riskEvents) (htype : e.eventType = "data_stale") (T : ℤ) :
    e.blocks (some x) T = true ↔ StaleOf e x ∧ T ≤ e.createdAt + staleHours := by
  obtain ⟨hlevel, hexpires, y, -, haffected⟩ := hl.shape e he htype
  have hexpired : (!e.expired T) = true ↔ T ≤ e.createdAt + staleHours := by
    rw [Bool.not_eq_true']
    exact expired_iff hexpires T
  unfold RiskEventRow.blocks StaleOf
  simp only [Bool.and_eq_true, hexpired, hlevel, haffected, htype]
  simp only [decide_true, Bool.true_or, true_and, Option.isNone_some, Bool.false_or, decide_eq_true_eq]
  constructor
  · rintro ⟨⟨hopen, hunexpired⟩, hscope⟩
    exact ⟨⟨hopen, by simpa [eq_comm] using hscope⟩, hunexpired⟩
  · rintro ⟨⟨hopen, hscope⟩, hunexpired⟩
    exact ⟨⟨hopen, hunexpired⟩, by simpa [eq_comm] using hscope⟩

end HeartbeatAux

open HeartbeatAux

/-- After any calls the gates find a symbol blocked exactly if another service's event blocks it or its event of stale data was
raised, by the history of the checks, no more than six hours ago. -/
theorem stale_blocks_iff (isPostgres : Bool) {symbols : List String} (hlimit : symbols.length ≤ 5000) {clock T : ℤ}
    {ops : List DataOp} (hops : Timed symbols clock ops) (hT : ops.foldl DataOp.clock clock ≤ T) (x : String) :
    (({ isPostgres } : DataStore).run ops).hasBlockingRiskEvent (some x) T = true ↔
      (∃ e ∈ (({ isPostgres } : DataStore).run ops).riskEvents, e.eventType ≠ "data_stale" ∧ e.blocks (some x) T = true) ∨
        ∃ r ∈ (({} : StaleHistory).run isPostgres ops).raised x, T ≤ r.1 + staleHours := by
  have hl : Linked symbols T (({ isPostgres } : DataStore).run ops) (({} : StaleHistory).run isPostgres ops) :=
    (linked_run (linked_empty isPostgres) hlimit hops).later hT
  unfold DataStore.hasBlockingRiskEvent
  rw [List.any_eq_true]
  constructor
  · rintro ⟨e, he, hblocks⟩
    by_cases htype : e.eventType = "data_stale"
    · obtain ⟨hx, hunexpired⟩ := (blocks_stale hl he htype T).mp hblocks
      exact .inr ⟨_, hl.live e he x hx hunexpired, hunexpired⟩
    · exact .inl ⟨e, he, htype, hblocks⟩
  · rintro (⟨e, he, -, hblocks⟩ | ⟨r, hr, hunexpired⟩)
    · exact ⟨e, he, hblocks⟩
    · obtain ⟨e, he, hx, hcreated, -⟩ := hl.raised x r hr hunexpired
      exact ⟨e, he, (blocks_stale hl he hx.1 T).mpr ⟨hx, hcreated ▸ hunexpired⟩⟩

namespace HeartbeatAux

/-- Two symbols without bars are checked at one reference time, and one of them again shortly before its event expires. -/
def sampleChecks : List DataOp :=
  [.check { symbol := "BTC/USDT", maxDelay := 120000000, now := 0, listedAt := 1 },
    .check { symbol := "ETH/USDT", maxDelay := 120000000, now := 0, listedAt := 2 },
    .check { symbol := "BTC/USDT", maxDelay := 120000000, now := staleHours - 2, listedAt := staleHours - 1 }]

theorem sampleChecks_timed : Timed ["BTC/USDT", "ETH/USDT"] 0 sampleChecks := by
  simp [sampleChecks, Timed, DataOp.Admitted, DataOp.clock, staleHours]

end HeartbeatAux

/-- A second stale check does not prolong the event of the first. -/
theorem stale_blocks_expiry : (({} : DataStore).run sampleChecks).hasBlockingRiskEvent (some "BTC/USDT") (staleHours + 1) = false := by
  refine Bool.eq_false_iff.mpr fun hblocked => ?_
  rcases (stale_blocks_iff true (by decide) sampleChecks_timed (by decide) "BTC/USDT").mp hblocked with hother | hraised
  · exact absurd hother (by decide +kernel)
  · exact absurd hraised (by decide +kernel)

end TradingPlatform
