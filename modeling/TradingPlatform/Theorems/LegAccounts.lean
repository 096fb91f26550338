import Mathlib.Data.List.Range
import Mathlib.Tactic.FieldSimp
import TradingPlatform.Domain.Gain
import TradingPlatform.Lemmas.CrossSectionalReplay

/-!
# The accounts of the cross-sectional replay

A leg that drops out where its symbol has no bar leaves without a return, a long leg is credited with the funding that it pays, and a
replay that closes nothing reports that it opened nothing.
-/

namespace TradingPlatform

namespace CrossSectionalArgs

/-! ## The statement -/

section Statement

variable (args : CrossSectionalArgs)

/-- The state after some cycles. -/
def stateAfter (p : Plan) (cycles : List ℤ) : Except CrossSectionalError CrossSectionalState := cycles.foldlM (args.runCycle p.history) {}

/-- The legs that are open in one state and not in the other. -/
def openOnlyIn (s s' : CrossSectionalState) : List (String × OpenLeg) := s.openPositions.filter fun e => decide (e ∉ s'.openPositions)

/-- The funding of a leg: a short leg earns the rate of its entry for every interval held, a long leg pays it. -/
def fundingPart (leg : OpenLeg) (time : ℤ) : ℚ :=
  match leg.side with
  | .short => leg.entryFunding * args.fundingCycles leg time / 10000
  | .long => -(leg.entryFunding * args.fundingCycles leg time / 10000)

/-- The returns that a leg earns when it closes. -/
structure Earns (time : ℤ) (e : String × OpenLeg) (r : LegReturn) : Prop where
  gross : ∃ exitPrice, args.barClose e.1 time = some exitPrice ∧
    r.gross = e.2.side.gain e.2.entryPrice exitPrice / e.2.entryPrice + args.fundingPart e.2 time
  net : r.net = r.gross - args.roundTripCostBps / 10000
  pnl : r.pnl = r.net * 1000

/-- A cycle accounts for the legs: each that leaves the open set adds one entry to the returns, each that joins it is counted, and no symbol
has two. -/
structure CycleAccounts (cycle : ℤ) (s s' : CrossSectionalState) : Prop where
  returns : ∃ returns, Appends s s' returns ∧ List.Forall₂ (args.Earns cycle) (openOnlyIn s s') returns
  opened : s'.legsOpened = s.legsOpened + (openOnlyIn s' s).length
  oneLeg : (Json.keys s'.openPositions).Nodup

/-- The result accounts for the legs that were open after the last cycle. -/
structure EndAccounts (p : Plan) (s : CrossSectionalState) (result : Result) : Prop where
  returns : ∃ returns : List LegReturn, result.grossReturns = s.grossReturns ++ returns.map LegReturn.gross ∧
    result.netReturns = s.netReturns ++ returns.map LegReturn.net ∧ result.netPnls = s.netPnls ++ returns.map LegReturn.pnl ∧
    List.Forall₂ (args.Earns p.finalCycle) (s.openPositions.filter (hasBar args p.finalCycle)) returns
  opened : result.totalLegsOpened = s.legsOpened
  balance : result.totalLegsOpened = result.totalLegsClosed + (s.openPositions.filter fun e => !hasBar args p.finalCycle e).length

/-- Every cycle and the end of a replay account for the legs. -/
def LegsAccounted (result : Result) : Prop :=
  ∀ p, args.plan = .ok p →
    (∀ before cycle after s s', p.cycles = before ++ cycle :: after → args.stateAfter p before = .ok s →
      args.runCycle p.history s cycle = .ok s' → args.CycleAccounts cycle s s') ∧
    ∀ s, args.stateAfter p p.cycles = .ok s → args.EndAccounts p s result

/-- The condition on a cycle: what drops out has a bar, and is short or without funding. -/
def CycleKeeps (history : List (String × List (ℤ × ℚ))) (cycle : ℤ) (s : CrossSectionalState) : Prop :=
  ∀ e ∈ s.openPositions, args.dropsAt history cycle e = true →
    hasBar args cycle e = true ∧ (e.2.side = .long → e.2.entryFunding = 0)

/-- The condition on the end: what is closed is short, without funding or just opened, and where a leg was opened one is closed. -/
structure EndKeeps (p : Plan) (s : CrossSectionalState) : Prop where
  funding : ∀ e ∈ s.openPositions, hasBar args p.finalCycle e = true → e.2.side = .long →
    e.2.entryFunding = 0 ∨ e.2.entryTime = p.finalCycle
  closed : 0 < s.legsOpened → 0 < s.legsClosed ∨ ∃ e ∈ s.openPositions, hasBar args p.finalCycle e = true

/-- Every cycle and the end of a replay meet their conditions. -/
def LegsKept : Prop :=
  ∀ p, args.plan = .ok p →
    (∀ before cycle after s, p.cycles = before ++ cycle :: after → args.stateAfter p before = .ok s →
      args.CycleKeeps p.history cycle s) ∧
    ∀ s, args.stateAfter p p.cycles = .ok s → args.EndKeeps p s

end Statement

variable {args : CrossSectionalArgs}

/-! ## Returns -/

theorem Appends.unique {s s' : CrossSectionalState} {returns returns' : List LegReturn} (h : Appends s s' returns)
    (h' : Appends s s' returns') : returns = returns' := by
  have hgross : returns.map LegReturn.gross = returns'.map LegReturn.gross := List.append_cancel_left (h.gross.symm.trans h'.gross)
  have hnet : returns.map LegReturn.net = returns'.map LegReturn.net := List.append_cancel_left (h.net.symm.trans h'.net)
  have hpnl : returns.map LegReturn.pnl = returns'.map LegReturn.pnl := List.append_cancel_left (h.pnl.symm.trans h'.pnl)
  clear h h'
  induction returns generalizing returns' with
  | nil =>
    cases returns' with
    | nil => rfl
    | cons r' returns' => nomatch hgross
  | cons r returns ih =>
    cases returns' with
    | nil => nomatch hgross
    | cons r' returns' =>
      rw [List.map_cons, List.map_cons, List.cons.injEq] at hgross hnet hpnl
      have hr : r = r' := by
        obtain ⟨gross, net, pnl⟩ := r
        obtain ⟨gross', net', pnl'⟩ := r'
        obtain rfl : gross = gross' := hgross.1
        obtain rfl : net = net' := hnet.1
        obtain rfl : pnl = pnl' := hpnl.1
        rfl
      rw [hr, ih hgross.2 hnet.2 hpnl.2]

theorem forall₂_imp {R S : String × OpenLeg → LegReturn → Prop} {legs : List (String × OpenLeg)} {returns : List LegReturn}
    (h : List.Forall₂ R legs returns) (himp : ∀ e ∈ legs, ∀ r, R e r → S e r) : List.Forall₂ S legs returns := by
  induction h with
  | nil => exact List.Forall₂.nil
  | cons hr _ ih => exact List.Forall₂.cons (himp _ List.mem_cons_self _ hr) (ih fun e he => himp e (List.mem_cons_of_mem _ he))

theorem forall₂_both {R S : String × OpenLeg → LegReturn → Prop} {legs : List (String × OpenLeg)} {returns : List LegReturn}
    (h : List.Forall₂ R legs returns) (h' : List.Forall₂ S legs returns) : ∀ e ∈ legs, ∃ r, R e r ∧ S e r := by
  induction h with
  | nil => exact fun e he => nomatch he
  | cons hr _ ih =>
    obtain ⟨hs, hrest⟩ := List.forall₂_cons.mp h'
    intro e he
    rcases List.mem_cons.mp he with rfl | he
    · exact ⟨_, hr, hs⟩
    · exact ih hrest e he

theorem pricePnlPct_eq (leg : OpenLeg) (exitPrice : ℚ) : pricePnlPct leg exitPrice = leg.side.gain leg.entryPrice exitPrice / leg.entryPrice := by
  unfold pricePnlPct Direction.gain
  cases leg.side <;> rfl

/-- What is computed for a leg is what it earns, but for the funding of a long leg. -/
theorem Computed.earns_iff {time : ℤ} {e : String × OpenLeg} {r : LegReturn} (h : Computed args time e r) :
    args.Earns time e r ↔ (e.2.side = .long → e.2.entryFunding = 0 ∨ e.2.entryTime = time) := by
  obtain ⟨exitPrice, hbar, hr⟩ := h
  unfold legReturn at hr
  split_ifs at hr with hzero
  rw [not_or] at hzero
  have hr' := Except.ok.inj hr
  have hrgross : r.gross = pricePnlPct e.2 exitPrice + e.2.entryFunding * args.fundingCycles e.2 time / 10000 :=
    (congrArg LegReturn.gross hr').symm
  have hrnet : r.net = r.gross - args.roundTripCostBps / 10000 := by rw [← hr']
  have hrpnl : r.pnl = r.net * 1000 := by rw [← hr']
  have hhours : (args.rebalanceHours : ℚ) ≠ 0 := Int.cast_ne_zero.mpr hzero.2
  have hmicros : (hourMicros : ℚ) ≠ 0 := by unfold hourMicros; norm_num
  have hcycles : args.fundingCycles e.2 time = 0 ↔ e.2.entryTime = time := by
    unfold fundingCycles
    rw [div_eq_zero_iff, div_eq_zero_iff, or_iff_left hhours, or_iff_left hmicros, Int.cast_eq_zero, sub_eq_zero]
    exact eq_comm
  have hgross : args.Earns time e r ↔ e.2.entryFunding * args.fundingCycles e.2 time / 10000 = args.fundingPart e.2 time := by
    constructor
    · intro hearns
      obtain ⟨exitPrice', hbar', heq⟩ := hearns.gross
      obtain rfl : exitPrice = exitPrice' := Option.some.inj (hbar.symm.trans hbar')
      rw [hrgross, pricePnlPct_eq] at heq
      exact add_left_cancel heq
    · intro heq
      exact ⟨⟨exitPrice, hbar, by rw [hrgross, pricePnlPct_eq, heq]⟩, hrnet, hrpnl⟩
  rw [hgross]
  unfold fundingPart
  cases hside : e.2.side with
  | short => simp
  | long =>
    simp only [forall_const]
    rw [self_eq_neg, div_eq_zero_iff, mul_eq_zero, hcycles]
    norm_num

/-! ## Cycles -/

/-- Every state after some cycles has one leg a symbol, opened at one of them, and a return for every leg closed. -/
structure Kept (cycles : List ℤ) (s : CrossSectionalState) : Prop where
  keys : (Json.keys s.openPositions).Nodup
  times : ∀ e ∈ s.openPositions, e.2.entryTime ∈ cycles
  gross : s.grossReturns.length = s.legsClosed
  net : s.netReturns.length = s.legsClosed
  pnl : s.netPnls.length = s.legsClosed

theorem stateAfter_append {p : Plan} {before : List ℤ} {cycle : ℤ} {s' : CrossSectionalState} :
    args.stateAfter p (before ++ [cycle]) = .ok s' ↔ ∃ s, args.stateAfter p before = .ok s ∧ args.runCycle p.history s cycle = .ok s' := by
  unfold stateAfter
  rw [List.foldlM_append, Loops.bind_eq_ok]
  simp only [List.foldlM_cons, List.foldlM_nil, bind_pure]

theorem kept {p : Plan} (cycles : List ℤ) {s : CrossSectionalState} (h : args.stateAfter p cycles = .ok s) : Kept cycles s := by
  induction cycles using List.reverseRecOn generalizing s with
  | nil =>
    obtain rfl : ({} : CrossSectionalState) = s := Except.ok.inj h
    refine ⟨List.nodup_nil, ?_, rfl, rfl, rfl⟩
    simp
  | append_singleton before cycle ih =>
    obtain ⟨s₀, h₀, hstep⟩ := stateAfter_append.mp h
    have hkept := ih h₀
    obtain ⟨returns, legs, hspec⟩ := runCycle_spec hkept.keys hstep
    refine ⟨hspec.keys, fun e he => ?_, ?_, ?_, ?_⟩
    · rw [hspec.positions] at he
      rcases List.mem_append.mp he with he | he
      · exact List.mem_append_left _ (hkept.times e (List.mem_of_mem_filter he))
      · rw [hspec.times e he]
        simp
    · rw [hspec.appends.gross, hspec.closed, List.length_append, hkept.gross, List.length_map]
    · rw [hspec.appends.net, hspec.closed, List.length_append, hkept.net, List.length_map]
    · rw [hspec.appends.pnl, hspec.closed, List.length_append, hkept.pnl, List.length_map]

section Cycle

variable {history : List (String × List (ℤ × ℚ))} {cycle : ℤ} {s s' : CrossSectionalState} {returns : List LegReturn}
  {legs : List (String × OpenLeg)}

/-- The legs that leave at a cycle are those that drop out. -/
theorem CycleSpec.left (h : CycleSpec args history cycle s s' returns legs) (htimes : ∀ e ∈ s.openPositions, e.2.entryTime < cycle) :
    openOnlyIn s s' = s.openPositions.filter (args.dropsAt history cycle) := by
  refine List.filter_congr fun e he => ?_
  have hnew : e ∉ legs := fun hmem => absurd (h.times e hmem) (htimes e he).ne
  rw [h.positions]
  cases hdrop : args.dropsAt history cycle e with
  | true =>
    refine decide_eq_true fun hmem => ?_
    rcases List.mem_append.mp hmem with hmem | hmem
    · have hstays := (List.mem_filter.mp hmem).2
      rw [hdrop] at hstays
      nomatch hstays
    · exact hnew hmem
  | false => exact decide_eq_false (not_not_intro (List.mem_append_left _ (List.mem_filter.mpr ⟨he, by rw [hdrop]; rfl⟩)))

/-- The legs that join at a cycle are those that are opened. -/
theorem CycleSpec.joined (h : CycleSpec args history cycle s s' returns legs) (htimes : ∀ e ∈ s.openPositions, e.2.entryTime < cycle) :
    openOnlyIn s' s = legs := by
  unfold openOnlyIn
  rw [h.positions, List.filter_append]
  have hstay : (s.openPositions.filter fun e => !args.dropsAt history cycle e).filter (fun e => decide (e ∉ s.openPositions)) = [] := by
    refine List.filter_eq_nil_iff.mpr fun e he => ?_
    have hmem := List.mem_of_mem_filter he
    simpa using hmem
  have hnew : legs.filter (fun e => decide (e ∉ s.openPositions)) = legs := by
    refine List.filter_eq_self.mpr fun e he => decide_eq_true fun hmem => ?_
    exact absurd (h.times e he) (htimes e hmem).ne
  rw [hstay, hnew, List.nil_append]

/-- A cycle accounts for the legs exactly where it meets its condition. -/
theorem CycleSpec.accounts_iff (h : CycleSpec args history cycle s s' returns legs) (htimes : ∀ e ∈ s.openPositions, e.2.entryTime < cycle) :
    args.CycleAccounts cycle s s' ↔ args.CycleKeeps history cycle s := by
  constructor
  · intro haccounts e he hdrop
    obtain ⟨returns', happends, hearns⟩ := haccounts.returns
    rw [happends.unique h.appends, h.left htimes] at hearns
    have hlength : ((s.openPositions.filter (args.dropsAt history cycle)).filter (hasBar args cycle)).length =
        (s.openPositions.filter (args.dropsAt history cycle)).length := h.computed.length_eq.trans hearns.length_eq.symm
    have hbars := List.length_filter_eq_length_iff.mp hlength
    have hcomputed := h.computed
    rw [List.filter_eq_self.mpr hbars] at hcomputed
    have hleft : e ∈ s.openPositions.filter (args.dropsAt history cycle) := List.mem_filter.mpr ⟨he, hdrop⟩
    obtain ⟨r, hr, hr'⟩ := forall₂_both hcomputed hearns e hleft
    refine ⟨hbars e hleft, fun hside => ?_⟩
    exact (hr.earns_iff.mp hr' hside).resolve_right (htimes e he).ne
  · intro hkeeps
    have hbars : ∀ e ∈ s.openPositions.filter (args.dropsAt history cycle), hasBar args cycle e = true :=
      fun e he => (hkeeps e (List.mem_of_mem_filter he) (List.mem_filter.mp he).2).1
    have hcomputed := h.computed
    rw [List.filter_eq_self.mpr hbars] at hcomputed
    refine ⟨⟨returns, h.appends, ?_⟩, ?_, h.keys⟩
    · rw [h.left htimes]
      refine forall₂_imp hcomputed fun e he r hr => hr.earns_iff.mpr fun hside => Or.inl ?_
      exact (hkeeps e (List.mem_of_mem_filter he) (List.mem_filter.mp he).2).2 hside
    · rw [h.joined htimes, h.opened]

end Cycle

/-! ## The end -/

section End

variable {p : Plan} {s final : CrossSectionalState} {returns : List LegReturn} {cycles : List ℤ}

theorem report_returns {p : Plan} {final : CrossSectionalState} (hgross : final.grossReturns.length = final.legsClosed)
    (hnet : final.netReturns.length = final.legsClosed) (hpnl : final.netPnls.length = final.legsClosed) :
    (report p final).grossReturns = final.grossReturns ∧ (report p final).netReturns = final.netReturns ∧
      (report p final).netPnls = final.netPnls ∧ (report p final).totalLegsClosed = final.legsClosed ∧
      (report p final).totalLegsOpened = if final.legsClosed = 0 then 0 else final.legsOpened := by
  unfold report
  by_cases hnone : final.netReturns = []
  · have hclosed : final.legsClosed = 0 := by
      rw [← hnet, hnone]
      rfl
    rw [hclosed] at hgross hpnl
    rw [if_pos hnone, if_pos hclosed, List.eq_nil_of_length_eq_zero hgross, List.eq_nil_of_length_eq_zero hpnl, hnone, hclosed]
    exact ⟨rfl, rfl, rfl, rfl, rfl⟩
  · have hclosed : final.legsClosed ≠ 0 := by
      intro hzero
      rw [hzero] at hnet
      exact hnone (List.eq_nil_of_length_eq_zero hnet)
    rw [if_neg hnone, if_neg hclosed]
    exact ⟨rfl, rfl, rfl, rfl, rfl⟩

/-- The end accounts for the legs exactly where it meets its condition, as far as the legs that left before were closed. -/
theorem Closes.end_iff (h : Closes args p.finalCycle s.openPositions s final returns) (hkept : Kept cycles s) :
    (args.EndAccounts p s (report p final) → args.EndKeeps p s) ∧
      (args.EndKeeps p s → s.legsOpened = s.legsClosed + s.openPositions.length → args.EndAccounts p s (report p final)) := by
  obtain ⟨hgross, hnet, hpnl, hclosed, hopened⟩ := @report_returns p final
    (by rw [h.appends.gross, h.closed, List.length_append, hkept.gross, List.length_map])
    (by rw [h.appends.net, h.closed, List.length_append, hkept.net, List.length_map])
    (by rw [h.appends.pnl, h.closed, List.length_append, hkept.pnl, List.length_map])
  rw [h.closed, h.opened] at hopened
  have hlength : (s.openPositions.filter (hasBar args p.finalCycle)).length = returns.length := h.computed.length_eq
  constructor
  · intro haccounts
    refine ⟨fun e he hbar hside => ?_, fun hpos => ?_⟩
    · obtain ⟨returns', hgross', hnet', hpnl', hearns⟩ := haccounts.returns
      have happends : Appends s final returns' := ⟨hgross.symm.trans hgross', hnet.symm.trans hnet', hpnl.symm.trans hpnl'⟩
      rw [happends.unique h.appends] at hearns
      obtain ⟨r, hr, hr'⟩ := forall₂_both h.computed hearns e (List.mem_filter.mpr ⟨he, hbar⟩)
      exact hr.earns_iff.mp hr' hside
    · by_contra hno
      rw [not_or] at hno
      have hnone : s.openPositions.filter (hasBar args p.finalCycle) = [] :=
        List.filter_eq_nil_iff.mpr fun e he hbar => hno.2 ⟨e, he, hbar⟩
      rw [hnone, List.length_nil] at hlength
      rw [if_pos (by omega)] at hopened
      have hreported := haccounts.opened
      omega
  · intro hkeeps hbalance
    have hsplit := List.length_eq_length_filter_add (l := s.openPositions) (hasBar args p.finalCycle)
    have hall : (report p final).totalLegsOpened = s.legsOpened := by
      rw [hopened]
      split_ifs with hzero
      · by_contra hne
        rcases hkeeps.closed (by omega) with hpos | ⟨e, he, hbar⟩
        · omega
        · have hmem : e ∈ s.openPositions.filter (hasBar args p.finalCycle) := List.mem_filter.mpr ⟨he, hbar⟩
          have hpos := List.length_pos_of_mem hmem
          omega
      · rfl
    refine ⟨⟨returns, ?_, ?_, ?_, ?_⟩, hall, ?_⟩
    · rw [hgross, h.appends.gross]
    · rw [hnet, h.appends.net]
    · rw [hpnl, h.appends.pnl]
    · refine forall₂_imp h.computed fun e he r hr => hr.earns_iff.mpr fun hside => ?_
      exact hkeeps.funding e (List.mem_of_mem_filter he) (List.mem_filter.mp he).2 hside
    · rw [hall, hclosed, h.closed, hbalance]
      omega

/-- Where no leg was lost, every leg opened is closed or open. -/
theorem balanced (hlate : cycles.Pairwise (· < ·))
    (hkeeps : ∀ before cycle after s, cycles = before ++ cycle :: after → args.stateAfter p before = .ok s → args.CycleKeeps p.history cycle s)
    (h : args.stateAfter p cycles = .ok s) : s.legsOpened = s.legsClosed + s.openPositions.length := by
  induction cycles using List.reverseRecOn generalizing s with
  | nil =>
    obtain rfl : ({} : CrossSectionalState) = s := Except.ok.inj h
    rfl
  | append_singleton before cycle ih =>
    obtain ⟨s₀, h₀, hstep⟩ := stateAfter_append.mp h
    have hbefore := ih (List.pairwise_append.mp hlate).1
      (fun b c a s heq hs => hkeeps b c (a ++ [cycle]) s (by rw [heq]; simp) hs) h₀
    obtain ⟨returns, legs, hspec⟩ := runCycle_spec (kept before h₀).keys hstep
    have hbars : ∀ e ∈ s₀.openPositions.filter (args.dropsAt p.history cycle), hasBar args cycle e = true :=
      fun e he => (hkeeps before cycle [] s₀ rfl h₀ e (List.mem_of_mem_filter he) (List.mem_filter.mp he).2).1
    have hreturns := hspec.computed.length_eq
    rw [List.filter_eq_self.mpr hbars] at hreturns
    have hsplit := List.length_eq_length_filter_add (l := s₀.openPositions) (args.dropsAt p.history cycle)
    rw [hspec.opened, hspec.closed, hspec.positions, List.length_append]
    omega

end End

/-! ## Runs -/

theorem cycleTimes_pairwise {start stop : ℤ} {cycles : List ℤ} (h : args.cycleTimes start stop = some cycles) : cycles.Pairwise (· < ·) := by
  unfold cycleTimes at h
  split_ifs at h with hempty hhours
  · cases h
    exact List.Pairwise.nil
  · cases h
    have hstep : 0 < args.rebalanceHours * hourMicros := mul_pos (not_le.mp hhours) (by decide)
    rw [List.pairwise_map]
    refine List.pairwise_lt_range.imp fun hlt => ?_
    have hcast := Int.ofNat_lt.mpr hlt
    have hmul := mul_lt_mul_of_pos_right hcast hstep
    omega

theorem plan_pairwise {p : Plan} (h : args.plan = .ok p) : p.cycles.Pairwise (· < ·) := by
  unfold plan at h
  dsimp only at h
  split_ifs at h
  split at h
  · nomatch h
  · split at h
    · nomatch h
    · rename_i hcycles
      cases h
      exact cycleTimes_pairwise hcycles

theorem run_eq_ok {result : Result} : args.runCrossSectionalReplay = .ok result ↔ ∃ p s final, args.plan = .ok p ∧
    args.stateAfter p p.cycles = .ok s ∧ s.openPositions.foldlM (fun s e => args.closeAt p.finalCycle s e.1 e.2) s = .ok final ∧
    report p final = result := by
  unfold runCrossSectionalReplay stateAfter
  simp only [Loops.bind_eq_ok, Except.ok.injEq]
  constructor
  · rintro ⟨p, hp, s, hs, final, hfinal, hresult⟩
    exact ⟨p, s, final, hp, hs, hfinal, hresult⟩
  · rintro ⟨p, s, final, hp, hs, hfinal, hresult⟩
    exact ⟨p, hp, s, hs, final, hfinal, hresult⟩

end CrossSectionalArgs

open CrossSectionalArgs

/-- A replay accounts for its legs exactly where each of its cycles and its end meet their conditions. -/
theorem crossSectional_accounts {args : CrossSectionalArgs} {result : CrossSectionalArgs.Result}
    (hrun : args.runCrossSectionalReplay = .ok result) : args.LegsAccounted result ↔ args.LegsKept := by
  obtain ⟨p, s, final, hp, hs, hfinal, rfl⟩ := run_eq_ok.mp hrun
  obtain ⟨returns, hcloses⟩ := closeRest_ok hfinal
  have hend := hcloses.end_iff (kept p.cycles hs)
  have hpairwise := plan_pairwise hp
  have htimes : ∀ before cycle after s₀, p.cycles = before ++ cycle :: after → args.stateAfter p before = .ok s₀ →
      ∀ e ∈ s₀.openPositions, e.2.entryTime < cycle := by
    intro before cycle after s₀ hcycles h₀ e he
    rw [hcycles] at hpairwise
    exact (List.pairwise_append.mp hpairwise).2.2 _ ((kept before h₀).times e he) cycle List.mem_cons_self
  -- a run that returns has made every step
  have hsteps : ∀ before cycle after s₀, p.cycles = before ++ cycle :: after → args.stateAfter p before = .ok s₀ →
      ∃ s₁, args.runCycle p.history s₀ cycle = .ok s₁ := by
    intro before cycle after s₀ hcycles h₀
    have hall := hs
    unfold stateAfter at hall h₀
    rw [hcycles, List.foldlM_append] at hall
    obtain ⟨s', hs', hrest⟩ := Loops.bind_eq_ok.mp hall
    obtain rfl : s₀ = s' := Except.ok.inj (h₀.symm.trans hs')
    rw [List.foldlM_cons] at hrest
    obtain ⟨s₁, hs₁, -⟩ := Loops.bind_eq_ok.mp hrest
    exact ⟨s₁, hs₁⟩
  constructor
  · intro haccounted p' hp'
    obtain rfl : p = p' := Except.ok.inj (hp.symm.trans hp')
    obtain ⟨hcycles, hlast⟩ := haccounted p hp
    refine ⟨fun before cycle after s₀ heq h₀ => ?_, fun s' hs' => ?_⟩
    · obtain ⟨s₁, h₁⟩ := hsteps before cycle after s₀ heq h₀
      obtain ⟨returns, legs, hspec⟩ := runCycle_spec (kept before h₀).keys h₁
      exact (hspec.accounts_iff (htimes before cycle after s₀ heq h₀)).mp (hcycles before cycle after s₀ s₁ heq h₀ h₁)
    · obtain rfl : s = s' := Except.ok.inj (hs.symm.trans hs')
      exact hend.1 (hlast s hs)
  · intro hkept' p' hp'
    obtain rfl : p = p' := Except.ok.inj (hp.symm.trans hp')
    obtain ⟨hcycles, hlast⟩ := hkept' p hp
    refine ⟨fun before cycle after s₀ s₁ heq h₀ h₁ => ?_, fun s' hs' => ?_⟩
    · obtain ⟨returns, legs, hspec⟩ := runCycle_spec (kept before h₀).keys h₁
      exact (hspec.accounts_iff (htimes before cycle after s₀ heq h₀)).mpr (hcycles before cycle after s₀ heq h₀)
    · obtain rfl : s = s' := Except.ok.inj (hs.symm.trans hs')
      exact hend.2 (hlast s hs) (balanced hpairwise hcycles hs)

/-! ## On fixed histories -/

/-- Eight hours. -/
def eightHours : ℤ := 8 * hourMicros

/-- One short leg over two cycles, with bars at both. -/
def shortReplay : CrossSectionalArgs where
  marketExtras symbol :=
    if symbol = "BTC/USDT" then [(0, some (1 / 200)), (eightHours, some (1 / 200))] else if symbol = "ETH/USDT" then [(0, some 0)] else []
  ohlcvBars symbol := if symbol = "BTC/USDT" then [(0, 100), (eightHours, 99)] else []
  symbols := ["BTC/USDT", "ETH/USDT"]
  basketSize := 1

/-- The result of the short leg. -/
def shortResult : CrossSectionalArgs.Result :=
  { totalRebalanceCycles := 2, totalLegsOpened := 1, totalLegsClosed := 1, netPnls := [67 / 5], grossReturns := [3 / 200],
    netReturns := [67 / 5000], averageFeeBps := 10, averageSlippageBps := 6, startTime := 0, endTime := eightHours }

/-- The short leg, once it is open. -/
def shortOpen : CrossSectionalState :=
  { openPositions := [("BTC/USDT", { side := .short, entryPrice := 100, entryTime := 0, entryFunding := 50 })], legsOpened := 1 }

/-- The plan of the short leg. -/
def shortPlan : Plan :=
  { history := [("BTC/USDT", [(0, 50), (eightHours, 50)]), ("ETH/USDT", [(0, 0)])], start := 0, stop := eightHours,
    cycles := [0, eightHours] }

theorem crossSectional_accounts_short : shortReplay.LegsAccounted shortResult := by
  refine (crossSectional_accounts (by decide +kernel)).mpr fun p hp => ?_
  have hplan : shortReplay.plan = .ok shortPlan := by decide +kernel
  obtain rfl : shortPlan = p := Except.ok.inj (hplan.symm.trans hp)
  have hfirst : shortReplay.stateAfter shortPlan [0] = .ok shortOpen := by decide +kernel
  have hboth : shortReplay.stateAfter shortPlan [0, eightHours] = .ok shortOpen := by decide +kernel
  refine ⟨fun before cycle after s hcycles hs => ?_, fun s hs => ?_⟩
  · rcases before with _ | ⟨first, before⟩
    · obtain rfl : ({} : CrossSectionalState) = s := Except.ok.inj hs
      exact fun e he => nomatch he
    · obtain ⟨rfl, hrest⟩ := List.cons.inj hcycles
      rcases before with _ | ⟨second, before⟩
      · obtain rfl : shortOpen = s := Except.ok.inj (hfirst.symm.trans hs)
        obtain ⟨rfl, -⟩ := List.cons.inj hrest
        intro e he hdrop
        rw [List.mem_singleton.mp he] at hdrop
        exact absurd hdrop (by decide +kernel)
      · have hlength := congrArg List.length hrest
        simp at hlength
  · obtain rfl : shortOpen = s := Except.ok.inj (hboth.symm.trans hs)
    refine ⟨fun e he _ hside => ?_, fun _ => Or.inr ⟨_, List.mem_cons_self, by decide +kernel⟩⟩
    rw [List.mem_singleton.mp he] at hside
    nomatch hside

/-- Two legs whose sides turn at a cycle without bars. -/
def lostReplay : CrossSectionalArgs where
  marketExtras symbol :=
    if symbol = "BTC/USDT" then [(0, some (1 / 200)), (eightHours, some (-1 / 200))]
    else if symbol = "ETH/USDT" then [(0, some (-1 / 200)), (eightHours, some (1 / 200))] else []
  ohlcvBars _ := [(0, 100)]
  symbols := ["BTC/USDT", "ETH/USDT"]
  basketSize := 1

/-- The plan of the two legs. -/
def lostPlan : Plan :=
  { history := [("BTC/USDT", [(0, 50), (eightHours, -50)]), ("ETH/USDT", [(0, -50), (eightHours, 50)])], start := 0, stop := eightHours,
    cycles := [0, eightHours] }

/-- The result of the two legs. -/
def lostResult : CrossSectionalArgs.Result :=
  { totalRebalanceCycles := 2, totalLegsOpened := 0, totalLegsClosed := 0, netPnls := [], grossReturns := [], netReturns := [],
    averageFeeBps := 0, averageSlippageBps := 0, startTime := 0, endTime := eightHours }

/-- Both legs leave without a return, and the result says that none was opened. -/
theorem crossSectional_accounts_lost : ¬∀ (args : CrossSectionalArgs) (result : CrossSectionalArgs.Result),
    args.runCrossSectionalReplay = .ok result → args.LegsAccounted result := by
  intro h
  have hrun : lostReplay.runCrossSectionalReplay = .ok lostResult := by decide +kernel
  have hplan : lostReplay.plan = .ok lostPlan := by decide +kernel
  have hstate : lostReplay.stateAfter lostPlan lostPlan.cycles = .ok { legsOpened := 2 } := by decide +kernel
  have hlast := (h lostReplay lostResult hrun lostPlan hplan).2 _ hstate
  have hopened : (0 : ℕ) = 2 := hlast.opened
  omega

end TradingPlatform
