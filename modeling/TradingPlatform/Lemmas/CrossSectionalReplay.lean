import TradingPlatform.Engine.CrossSectionalReplay
import TradingPlatform.Lib.Loops

/-!
# The legs of the cross-sectional replay

What one close, one opening and one cycle do to the open legs, the counters and the returns.
-/

namespace TradingPlatform

namespace CrossSectionalArgs

variable {args : CrossSectionalArgs} {time : ℤ}

/-! ## Closing -/

/-- A state with the returns of some legs behind those it had. -/
structure Appends (s s' : CrossSectionalState) (returns : List LegReturn) : Prop where
  gross : s'.grossReturns = s.grossReturns ++ returns.map LegReturn.gross
  net : s'.netReturns = s.netReturns ++ returns.map LegReturn.net
  pnl : s'.netPnls = s.netPnls ++ returns.map LegReturn.pnl

theorem Appends.refl (s : CrossSectionalState) : Appends s s [] := by
  refine ⟨?_, ?_, ?_⟩ <;> simp

theorem Appends.trans {s s' s'' : CrossSectionalState} {returns returns' : List LegReturn} (h : Appends s s' returns)
    (h' : Appends s' s'' returns') : Appends s s'' (returns ++ returns') := by
  refine ⟨?_, ?_, ?_⟩
  · rw [h'.gross, h.gross, List.map_append, List.append_assoc]
  · rw [h'.net, h.net, List.map_append, List.append_assoc]
  · rw [h'.pnl, h.pnl, List.map_append, List.append_assoc]

/-- What the replay computes for a leg that closes. -/
def Computed (args : CrossSectionalArgs) (time : ℤ) (e : String × OpenLeg) (r : LegReturn) : Prop :=
  ∃ exitPrice, args.barClose e.1 time = some exitPrice ∧ args.legReturn e.2 exitPrice time = .ok r

/-- Whether a leg can be closed. -/
def hasBar (args : CrossSectionalArgs) (time : ℤ) (e : String × OpenLeg) : Bool := (args.barClose e.1 time).isSome

/-- Of some legs those with a bar are closed. -/
structure Closes (args : CrossSectionalArgs) (time : ℤ) (legs : List (String × OpenLeg)) (s s' : CrossSectionalState)
    (returns : List LegReturn) : Prop where
  computed : List.Forall₂ (Computed args time) (legs.filter (hasBar args time)) returns
  appends : Appends s s' returns
  opened : s'.legsOpened = s.legsOpened
  closed : s'.legsClosed = s.legsClosed + returns.length

theorem closeAt_ok {s s' : CrossSectionalState} {symbol : String} {leg : OpenLeg} (h : args.closeAt time s symbol leg = .ok s') :
    (∃ returns, Closes args time [(symbol, leg)] s s' returns) ∧ s'.openPositions = s.openPositions := by
  unfold closeAt at h
  cases hbar : args.barClose symbol time with
  | none =>
    rw [hbar] at h
    obtain rfl : s = s' := Except.ok.inj h
    refine ⟨⟨[], ?_, Appends.refl s, rfl, rfl⟩, rfl⟩
    have hnone : hasBar args time (symbol, leg) = false := by
      unfold hasBar
      rw [hbar]
      rfl
    rw [List.filter_cons_of_neg (by simp [hnone])]
    exact List.Forall₂.nil
  | some exitPrice =>
    rw [hbar] at h
    obtain ⟨r, hr, h⟩ := Loops.bind_eq_ok.mp h
    obtain rfl : args.recordReturn s r = s' := Except.ok.inj h
    refine ⟨⟨[r], ?_, ⟨rfl, rfl, rfl⟩, rfl, rfl⟩, rfl⟩
    have hsome : hasBar args time (symbol, leg) = true := by
      unfold hasBar
      rw [hbar]
      rfl
    rw [List.filter_cons_of_pos hsome]
    exact List.Forall₂.cons ⟨exitPrice, hbar, hr⟩ List.Forall₂.nil

theorem Closes.cons {e : String × OpenLeg} {legs : List (String × OpenLeg)} {s s' s'' : CrossSectionalState}
    {returns returns' : List LegReturn} (h : Closes args time [e] s s' returns) (h' : Closes args time legs s' s'' returns') :
    Closes args time (e :: legs) s s'' (returns ++ returns') := by
  refine ⟨?_, h.appends.trans h'.appends, h'.opened.trans h.opened, ?_⟩
  · rw [← List.singleton_append, List.filter_append]
    exact List.rel_append h.computed h'.computed
  · rw [h'.closed, h.closed, List.length_append, Nat.add_assoc]

/-- The close of the remaining positions. -/
theorem closeRest_ok {legs : List (String × OpenLeg)} {s s' : CrossSectionalState}
    (h : legs.foldlM (fun s e => args.closeAt time s e.1 e.2) s = .ok s') : ∃ returns, Closes args time legs s s' returns := by
  induction legs generalizing s with
  | nil =>
    obtain rfl : s = s' := Except.ok.inj h
    exact ⟨[], List.Forall₂.nil, Appends.refl s, rfl, rfl⟩
  | cons e legs ih =>
    rw [List.foldlM_cons] at h
    obtain ⟨s₁, h₁, h⟩ := Loops.bind_eq_ok.mp h
    obtain ⟨returns, hfirst⟩ := (closeAt_ok h₁).1
    obtain ⟨returns', hrest⟩ := ih h
    exact ⟨returns ++ returns', hfirst.cons hrest⟩

/-- The close of the legs that drop out: they leave, and those with a bar are closed. -/
theorem popAll_ok {legs : List (String × OpenLeg)} {s s' : CrossSectionalState} (hkeys : (legs.map Prod.fst).Nodup)
    (hlegs : ∀ e ∈ legs, Json.get e.1 s.openPositions = some e.2) (h : (legs.map Prod.fst).foldlM (args.popAndClose time) s = .ok s') :
    (∃ returns, Closes args time legs s s' returns) ∧
      s'.openPositions = s.openPositions.filter fun e => decide (e.1 ∉ legs.map Prod.fst) := by
  induction legs generalizing s with
  | nil =>
    obtain rfl : s = s' := Except.ok.inj h
    exact ⟨⟨[], List.Forall₂.nil, Appends.refl s, rfl, rfl⟩, (List.filter_eq_self.mpr fun e _ => by simp).symm⟩
  | cons e legs ih =>
    rw [List.map_cons, List.foldlM_cons] at h
    rw [List.map_cons, List.nodup_cons] at hkeys
    obtain ⟨s₁, h₁, h⟩ := Loops.bind_eq_ok.mp h
    unfold popAndClose at h₁
    rw [hlegs e List.mem_cons_self] at h₁
    obtain ⟨⟨returns, hfirst⟩, hopen⟩ := closeAt_ok h₁
    have hpop : Closes args time [e] s s₁ returns := ⟨hfirst.computed, ⟨hfirst.appends.gross, hfirst.appends.net, hfirst.appends.pnl⟩,
      hfirst.opened, hfirst.closed⟩
    have hlegs₁ : ∀ e' ∈ legs, Json.get e'.1 s₁.openPositions = some e'.2 := by
      intro e' he'
      have hne : e'.1 ≠ e.1 := fun heq => hkeys.1 (heq ▸ List.mem_map_of_mem he')
      rw [hopen]
      exact (Json.get_erase_ne hne _).trans (hlegs e' (List.mem_cons_of_mem e he'))
    obtain ⟨⟨returns', hrest⟩, hopen'⟩ := ih hkeys.2 hlegs₁ h
    refine ⟨⟨returns ++ returns', hpop.cons hrest⟩, ?_⟩
    rw [hopen', hopen]
    change (s.openPositions.filter _).filter _ = _
    rw [List.filter_filter]
    refine List.filter_congr fun e' _ => ?_
    have hiff : e'.1 ∉ (e :: legs).map Prod.fst ↔ e'.1 ∉ legs.map Prod.fst ∧ e'.1 ≠ e.1 := by
      rw [List.map_cons, List.mem_cons, not_or, and_comm]
    rw [decide_eq_decide.mpr hiff, Bool.decide_and]

/-! ## Opening -/

/-- A state with some new legs. -/
structure Opens (time : ℤ) (s s' : CrossSectionalState) (legs : List (String × OpenLeg)) : Prop where
  positions : s'.openPositions = s.openPositions ++ legs
  times : ∀ e ∈ legs, e.2.entryTime = time
  opened : s'.legsOpened = s.legsOpened + legs.length
  closed : s'.legsClosed = s.legsClosed
  appends : Appends s s' []

theorem Opens.refl (s : CrossSectionalState) : Opens time s s [] := by
  refine ⟨by simp, ?_, rfl, rfl, Appends.refl s⟩
  simp

theorem Opens.trans {s s' s'' : CrossSectionalState} {legs legs' : List (String × OpenLeg)} (h : Opens time s s' legs)
    (h' : Opens time s' s'' legs') : Opens time s s'' (legs ++ legs') := by
  refine ⟨?_, fun e he => ?_, ?_, h'.closed.trans h.closed, h.appends.trans h'.appends⟩
  · rw [h'.positions, h.positions, List.append_assoc]
  · rcases List.mem_append.mp he with he | he
    · exact h.times e he
    · exact h'.times e he
  · rw [h'.opened, h.opened, List.length_append, Nat.add_assoc]

theorem not_mem_keys_of_get {α : Type} {key : String} {entries : List (String × α)} (h : Json.get key entries = none) :
    key ∉ Json.keys entries := by
  induction entries with
  | nil => simp [Json.keys]
  | cons e rest ih =>
    obtain ⟨k, v⟩ := e
    rw [Json.get_cons] at h
    split_ifs at h with hk
    intro hmem
    rcases List.mem_cons.mp hmem with heq | hmem
    · exact hk heq.symm
    · exact ih h hmem

theorem openLeg_opens (side : Direction) (s : CrossSectionalState) (symbol : String) (fundingBps : ℚ)
    (hfree : Json.get symbol s.openPositions = none) (hkeys : (Json.keys s.openPositions).Nodup) :
    (∃ legs, Opens time s (args.openLeg time side s symbol fundingBps) legs) ∧
      (Json.keys (args.openLeg time side s symbol fundingBps).openPositions).Nodup := by
  unfold openLeg
  dsimp only
  split_ifs
  · exact ⟨⟨[], Opens.refl s⟩, hkeys⟩
  · cases args.barClose symbol time with
    | none => exact ⟨⟨[], Opens.refl s⟩, hkeys⟩
    | some entryPrice =>
      refine ⟨⟨[(symbol, { side, entryPrice, entryTime := time, entryFunding := fundingBps })], ?_, ?_, rfl, rfl, ?_⟩,
        Json.nodup_keys_set hkeys⟩
      · exact Json.set_of_not_mem (not_mem_keys_of_get hfree)
      · simp
      · exact ⟨by simp, by simp, by simp⟩

/-- The loop that opens positions opens at most one for each symbol. -/
theorem openTargets_opens (targetShort targetLong : List String) (ranked : List (String × ℚ)) {s : CrossSectionalState}
    (hkeys : (Json.keys s.openPositions).Nodup) :
    (∃ legs, Opens time s (ranked.foldl (args.openTarget time targetShort targetLong) s) legs) ∧
      (Json.keys (ranked.foldl (args.openTarget time targetShort targetLong) s).openPositions).Nodup := by
  induction ranked generalizing s with
  | nil => exact ⟨⟨[], Opens.refl s⟩, hkeys⟩
  | cons entry ranked ih =>
    rw [List.foldl_cons]
    have hstep : (∃ legs, Opens time s (args.openTarget time targetShort targetLong s entry) legs) ∧
        (Json.keys (args.openTarget time targetShort targetLong s entry).openPositions).Nodup := by
      unfold openTarget
      split_ifs with hshort hlong
      · exact openLeg_opens .short s entry.1 entry.2 hshort.2 hkeys
      · exact openLeg_opens .long s entry.1 entry.2 hlong.2 hkeys
      · exact ⟨⟨[], Opens.refl s⟩, hkeys⟩
    obtain ⟨⟨legs, hopens⟩, hkeys'⟩ := hstep
    obtain ⟨⟨legs', hopens'⟩, hkeys''⟩ := ih hkeys'
    exact ⟨⟨legs ++ legs', hopens.trans hopens'⟩, hkeys''⟩

/-! ## Cycles -/

/-- The symbols to hold short and long from a cycle on. -/
def targets (args : CrossSectionalArgs) (history : List (String × List (ℤ × ℚ))) (cycle : ℤ) : List String × List String :=
  ((headSlice (rankFunding (cycleFunding history cycle)) args.basketSize).map Prod.fst,
    (tailSlice (rankFunding (cycleFunding history cycle)) (-args.basketSize)).map Prod.fst)

/-- Whether a leg drops out at a cycle. -/
def dropsAt (args : CrossSectionalArgs) (history : List (String × List (ℤ × ℚ))) (cycle : ℤ) (e : String × OpenLeg) : Bool :=
  decide (2 * args.basketSize ≤ ((cycleFunding history cycle).length : ℤ)) &&
    dropsOut (args.targets history cycle).1 (args.targets history cycle).2 e.1 e.2

/-- What a cycle does: the legs that drop out leave, those of them with a bar are closed, and new legs are opened. -/
structure CycleSpec (args : CrossSectionalArgs) (history : List (String × List (ℤ × ℚ))) (cycle : ℤ) (s s' : CrossSectionalState)
    (returns : List LegReturn) (legs : List (String × OpenLeg)) : Prop where
  computed : List.Forall₂ (Computed args cycle) ((s.openPositions.filter (args.dropsAt history cycle)).filter (hasBar args cycle)) returns
  appends : Appends s s' returns
  positions : s'.openPositions = (s.openPositions.filter fun e => !args.dropsAt history cycle e) ++ legs
  times : ∀ e ∈ legs, e.2.entryTime = cycle
  keys : (Json.keys s'.openPositions).Nodup
  opened : s'.legsOpened = s.legsOpened + legs.length
  closed : s'.legsClosed = s.legsClosed + returns.length

theorem runCycle_spec {history : List (String × List (ℤ × ℚ))} {cycle : ℤ} {s s' : CrossSectionalState}
    (hkeys : (Json.keys s.openPositions).Nodup) (h : args.runCycle history s cycle = .ok s') :
    ∃ returns legs, CycleSpec args history cycle s s' returns legs := by
  unfold runCycle at h
  dsimp only at h
  by_cases hfew : ((cycleFunding history cycle).length : ℤ) < 2 * args.basketSize
  · rw [if_pos hfew] at h
    obtain rfl : s = s' := Except.ok.inj h
    have hdrops : ∀ e, args.dropsAt history cycle e = false := by
      intro e
      unfold dropsAt
      rw [decide_eq_false (not_le.mpr hfew), Bool.false_and]
    have hnone : s.openPositions.filter (args.dropsAt history cycle) = [] := List.filter_eq_nil_iff.mpr fun e _ => by simp [hdrops e]
    refine ⟨[], [], ?_, Appends.refl s, ?_, ?_, hkeys, rfl, rfl⟩
    · rw [hnone]
      exact List.Forall₂.nil
    · simp [hdrops]
    · simp
  · rw [if_neg hfew] at h
    obtain ⟨closed, hclosed, h⟩ := Loops.bind_eq_ok.mp h
    have hdrops : ∀ e, args.dropsAt history cycle e =
        dropsOut (args.targets history cycle).1 (args.targets history cycle).2 e.1 e.2 := by
      intro e
      unfold dropsAt
      rw [decide_eq_true (not_lt.mp hfew), Bool.true_and]
    have hfilter : s.openPositions.filter (fun e => dropsOut (args.targets history cycle).1 (args.targets history cycle).2 e.1 e.2) =
        s.openPositions.filter (args.dropsAt history cycle) := List.filter_congr fun e _ => (hdrops e).symm
    change ((s.openPositions.filter fun e => dropsOut (args.targets history cycle).1 (args.targets history cycle).2 e.1 e.2).map
      Prod.fst).foldlM (args.popAndClose cycle) s = .ok closed at hclosed
    rw [hfilter] at hclosed
    have hleft : ((s.openPositions.filter (args.dropsAt history cycle)).map Prod.fst).Nodup := (List.filter_sublist.map _).nodup hkeys
    obtain ⟨⟨returns, hcloses⟩, hopen⟩ := popAll_ok hleft
      (fun e he => (Json.get_eq_some_iff hkeys).mpr (List.mem_of_mem_filter he)) hclosed
    have hstay : closed.openPositions = s.openPositions.filter fun e => !args.dropsAt history cycle e := by
      rw [hopen]
      refine List.filter_congr fun e he => ?_
      have hiff : e.1 ∈ (s.openPositions.filter (args.dropsAt history cycle)).map Prod.fst ↔ args.dropsAt history cycle e = true := by
        constructor
        · intro hmem
          obtain ⟨e', he', hkey⟩ := List.mem_map.mp hmem
          have hsame := List.inj_on_of_nodup_map hkeys (List.mem_of_mem_filter he') he hkey
          rw [← hsame]
          exact (List.mem_filter.mp he').2
        · exact fun hdrop => List.mem_map_of_mem (List.mem_filter.mpr ⟨he, hdrop⟩)
      cases hdrop : args.dropsAt history cycle e with
      | true => exact decide_eq_false (not_not_intro (hiff.mpr hdrop))
      | false => exact decide_eq_true fun hmem => by rw [hiff.mp hmem] at hdrop; nomatch hdrop
    have hkeys' : (Json.keys closed.openPositions).Nodup := by
      rw [hopen]
      exact (List.filter_sublist.map _).nodup hkeys
    obtain ⟨⟨legs, hopens⟩, hkeys''⟩ := openTargets_opens (args.targets history cycle).1 (args.targets history cycle).2
      (rankFunding (cycleFunding history cycle)) hkeys'
    cases h
    refine ⟨returns, legs, hcloses.computed, ?_, ?_, hopens.times, hkeys'', ?_, ?_⟩
    · have happends := hcloses.appends.trans hopens.appends
      rw [List.append_nil] at happends
      exact happends
    · exact hopens.positions.trans (by rw [hstay])
    · exact hopens.opened.trans (by rw [hcloses.opened])
    · exact hopens.closed.trans hcloses.closed

end CrossSectionalArgs

end TradingPlatform
