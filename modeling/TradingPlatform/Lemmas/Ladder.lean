import TradingPlatform.Lemmas.Protection

/-!
# How the escalation ladder ends

Where no call is refused by the fence the ladder returns: with an active protection, after a read that found the side flat, or
with an emergency close that is pending.
-/

namespace TradingPlatform

/-- A submission raises nothing but what the adapter declares: no call is refused by the fence. -/
def Exchange.Declared (x : Exchange) : Prop := ∀ n detail, x.behaviour n ≠ .fenced detail

/-- A read of the account finds nothing on a side. -/
def Exchange.ReadsFlat (x : Exchange) (n : ℕ) (symbol : String) (direction : Direction) : Prop :=
  ∃ equity positions, x.accountReads n = .ok (equity, positions) ∧
    ∀ p ∈ positions.find? fun p => decide (p.symbol = symbol ∧ p.direction = direction), p.quantity ≤ 0

/-- The emergency close was attempted and is not confirmed: entries are blocked and the alert is raised. -/
structure ProtectionResult.Pending (r : ProtectionResult) : Prop where
  outcome : r.outcome = .emergencyClosePending
  blocked : r.accountEntryBlocked = true
  attempted : .emergencyReduceOnlyClose ∈ r.actions
  entryBlock : .accountEntryBlock ∈ r.actions
  alert : .highPriorityAlert ∈ r.actions

/-- The account and the answers to the calls are the same, and its reads go on. -/
structure Exchange.SameAccount (x x' : Exchange) : Prop where
  behaviour : x'.behaviour = x.behaviour
  accountReads : x'.accountReads = x.accountReads
  reads : x.reads ≤ x'.reads

section

variable {x x' x'' : Exchange}

theorem Exchange.SameAccount.refl (x : Exchange) : x.SameAccount x := ⟨rfl, rfl, Nat.le_refl _⟩

theorem Exchange.SameAccount.trans (h : x.SameAccount x') (h' : x'.SameAccount x'') : x.SameAccount x'' :=
  ⟨h'.behaviour.trans h.behaviour, h'.accountReads.trans h.accountReads, h.reads.trans h'.reads⟩

theorem Exchange.SameAccount.declared (h : x.SameAccount x') (hdeclared : x.Declared) : x'.Declared := by
  intro n detail
  rw [h.behaviour]
  exact hdeclared n detail

theorem Exchange.SameAccount.readsFlat_iff (h : x.SameAccount x') {n : ℕ} {symbol : String} {direction : Direction} :
    x'.ReadsFlat n symbol direction ↔ x.ReadsFlat n symbol direction := by
  unfold Exchange.ReadsFlat
  rw [h.accountReads]

/-! ## Calls -/

/-- An order is submitted without a read. -/
theorem submitOrder_account (x : Exchange) (request : OrderRequest) (price : Option ℚ) :
    x.SameAccount (submitOrder x request price).2 ∧ (submitOrder x request price).2.reads = x.reads := by
  unfold submitOrder Exchange.createOrder
  cases x.behaviour x.calls with
  | fenced detail => exact ⟨⟨rfl, rfl, Nat.le_refl _⟩, rfl⟩
  | refused message => exact ⟨⟨rfl, rfl, Nat.le_refl _⟩, rfl⟩
  | noReply message accepted => cases accepted <;> exact ⟨⟨rfl, rfl, Nat.le_refl _⟩, rfl⟩
  | answered orderId hasId status => exact ⟨⟨rfl, rfl, Nat.le_refl _⟩, rfl⟩

/-- What an order raises becomes "unavailable". -/
theorem submitOrder_declared (hdeclared : x.Declared) {request : OrderRequest} {price : Option ℚ} {e : PyError}
    (h : (submitOrder x request price).1 = .error e) (what : String) : ∃ m, wrapError what e = .adapterUnavailable m := by
  unfold submitOrder Exchange.createOrder at h
  cases hb : x.behaviour x.calls with
  | fenced detail => exact absurd hb (hdeclared _ detail)
  | refused message =>
    rw [hb] at h
    cases h
    exact ⟨_, rfl⟩
  | noReply message accepted =>
    rw [hb] at h
    cases accepted <;> (obtain rfl := Except.error.inj h; exact ⟨_, rfl⟩)
  | answered orderId hasId status =>
    rw [hb] at h
    cases hasId with
    | false =>
      cases h
      exact ⟨_, rfl⟩
    | true =>
      cases status with
      | none =>
        cases h
        exact ⟨_, rfl⟩
      | some status => nomatch h

theorem submitProtection_account (x : Exchange) (command : SubmitProtectionOrders) (symbol side : String) (quantity : ℚ) :
    x.SameAccount (submitProtection x command symbol side quantity).2 := by
  have hlegs : x.SameAccount (submitProtectionLegs x command symbol side quantity).2 := by
    have hstop := (submitOrder_account x (command.stopRequest symbol side quantity) (some command.stopLossPrice)).1
    unfold submitProtectionLegs
    split
    · rename_i e x₁ heq
      rw [heq] at hstop
      exact hstop
    · rename_i stopReceipt x₁ heq
      rw [heq] at hstop
      split
      · exact hstop
      · rename_i price clientOrderId _
        have htarget := (submitOrder_account x₁ (targetRequest clientOrderId symbol side quantity) (some price)).1
        split
        · rename_i e x₂ heq'
          rw [heq'] at htarget
          exact hstop.trans htarget
        · rename_i tpReceipt x₂ heq'
          rw [heq'] at htarget
          exact hstop.trans htarget
  unfold submitProtection
  split
  · exact Exchange.SameAccount.refl x
  · split
    · rename_i e x₁ heq
      rw [heq] at hlegs
      exact hlegs
    · rename_i receipts x₁ heq
      rw [heq] at hlegs
      exact hlegs

/-- A protection that is not submitted fails as the ladder expects it. -/
theorem submitProtection_declared (hdeclared : x.Declared) {command : SubmitProtectionOrders} {symbol side : String}
    {quantity : ℚ} {e : PyError} (h : submitProtection x command symbol side quantity = (.error e, x')) :
    ∃ m, e = .adapterUnavailable m := by
  unfold submitProtection at h
  split at h
  · exact ⟨_, (Except.error.inj (Prod.mk.inj h).1).symm⟩
  · split at h
    · rename_i e' x₁ hlegs
      obtain ⟨he, -⟩ := Prod.mk.inj h
      rw [← Except.error.inj he]
      unfold submitProtectionLegs at hlegs
      split at hlegs
      · rename_i e'' x₂ hstop
        obtain ⟨he', -⟩ := Prod.mk.inj hlegs
        rw [← Except.error.inj he']
        exact submitOrder_declared hdeclared (congrArg Prod.fst hstop) _
      · rename_i stopReceipt x₂ hstop
        have haccount := (submitOrder_account x (command.stopRequest symbol side quantity) (some command.stopLossPrice)).1
        rw [hstop] at haccount
        split at hlegs
        · nomatch (Prod.mk.inj hlegs).1
        · split at hlegs
          · rename_i e'' x₃ htarget
            obtain ⟨he', -⟩ := Prod.mk.inj hlegs
            rw [← Except.error.inj he']
            exact submitOrder_declared (haccount.declared hdeclared) (congrArg Prod.fst htarget) _
          · nomatch (Prod.mk.inj hlegs).1
    · nomatch (Prod.mk.inj h).1

theorem submitReduceOnlyExit_account (x : Exchange) (command : SubmitReduceOnlyExit) (symbol side : String) :
    x.SameAccount (submitReduceOnlyExit x command symbol side).2 ∧
      (submitReduceOnlyExit x command symbol side).2.reads = x.reads := by
  have hsubmit := submitOrder_account x
    { symbol, type := .market, side, amount := command.reduceQuantity, newClientOrderId := command.clientOrderId,
      reduceOnly := true } none
  unfold submitReduceOnlyExit
  split
  · exact ⟨Exchange.SameAccount.refl x, rfl⟩
  · split
    · rename_i e x₁ heq
      rw [heq] at hsubmit
      exact hsubmit
    · rename_i receipt x₁ heq
      rw [heq] at hsubmit
      exact hsubmit

/-- An exit that is not submitted is not refused by the fence. -/
theorem submitReduceOnlyExit_declared (hdeclared : x.Declared) {command : SubmitReduceOnlyExit} {symbol side : String}
    {e : PyError} (h : submitReduceOnlyExit x command symbol side = (.error e, x')) : ∃ m, e = .adapterUnavailable m := by
  unfold submitReduceOnlyExit at h
  split at h
  · exact ⟨_, (Except.error.inj (Prod.mk.inj h).1).symm⟩
  · split at h
    · rename_i e' x₁ hsubmit
      obtain ⟨he, -⟩ := Prod.mk.inj h
      rw [← Except.error.inj he]
      exact submitOrder_declared hdeclared (congrArg Prod.fst hsubmit) _
    · nomatch (Prod.mk.inj h).1

/-- A re-read of a side: what it finds is what that read of the account shows. -/
theorem exchangeQuantityFor_account {symbol : String} {direction : Direction} {out : Except PyError ℚ}
    (h : exchangeQuantityFor x symbol direction = (out, x')) :
    x.SameAccount x' ∧ ∀ q, out = .ok q → q ≤ 0 → x.reads < x'.reads ∧ x.ReadsFlat x.reads symbol direction := by
  unfold exchangeQuantityFor fetchAuthoritativeSnapshot at h
  cases hgateway : x.gatewayError with
  | some message =>
    rw [hgateway] at h
    cases h
    exact ⟨Exchange.SameAccount.refl x, nofun⟩
  | none =>
    rw [hgateway] at h
    cases hread : x.accountReads x.reads with
    | error message =>
      rw [hread] at h
      cases h
      exact ⟨⟨rfl, rfl, Nat.le_succ _⟩, nofun⟩
    | ok account =>
      obtain ⟨equity, positions⟩ := account
      rw [hread] at h
      cases hfind : positions.find? fun p => decide (p.symbol = symbol ∧ p.direction = direction) with
      | none =>
        simp only [hfind] at h
        cases h
        refine ⟨⟨rfl, rfl, Nat.le_succ _⟩, fun _ _ _ => ⟨Nat.lt_succ_self _, equity, positions, hread, ?_⟩⟩
        rw [hfind]
        intro p hp
        exact absurd hp.symm (Option.some_ne_none _)
      | some p =>
        simp only [hfind] at h
        cases h
        refine ⟨⟨rfl, rfl, Nat.le_succ _⟩, fun q hq hle => ⟨Nat.lt_succ_self _, equity, positions, hread, ?_⟩⟩
        rw [hfind]
        intro p' hp'
        cases hp'
        rw [Except.ok.inj hq]
        exact hle

/-! ## The ladder -/

/-- The ends of the ladder for a plan. -/
inductive LadderEnd (plan : ProtectionPlan) (x x' : Exchange) (result : ProtectionResult) : Prop where
  | active (h : result.isActive = true)
  | flat (n : ℕ) (hfrom : x.reads ≤ n) (hto : n < x'.reads) (h : x.ReadsFlat n plan.symbol plan.direction)
  | pending (h : result.Pending)

/-- An end of what the ladder came to is an end of the ladder. -/
theorem LadderEnd.of_later {plan plan' : ProtectionPlan} {result : ProtectionResult} (h : LadderEnd plan' x x' result)
    (haccount : x''.SameAccount x) (hsymbol : plan'.symbol = plan.symbol) (hdirection : plan'.direction = plan.direction) :
    LadderEnd plan x'' x' result := by
  cases h with
  | active h => exact .active h
  | flat n hfrom hto h =>
    rw [hsymbol, hdirection] at h
    exact .flat n (haccount.reads.trans hfrom) hto (haccount.readsFlat_iff.mp h)
  | pending h => exact .pending h

/-- The emergency ends flat or pending. -/
theorem escalateEmergency_ends (hdeclared : x.Declared) {plan : ProtectionPlan}
    (hmint : ∃ c, exitClientOrderId plan.positionId plan.attempt = .ok c) (actions : List ProtectionFailureAction)
    (attempts : ℕ) :
    ∃ result, (escalateEmergency x plan actions attempts).1 = .ok result ∧
      LadderEnd plan x (escalateEmergency x plan actions attempts).2 result := by
  obtain ⟨clientOrderId, hid⟩ := hmint
  have hverify : ∀ (x₁ : Exchange), x.SameAccount x₁ →
      LadderEnd plan x (verifyEmergencyClose x₁ plan (actions ++ [.emergencyReduceOnlyClose]) attempts).2
        (verifyEmergencyClose x₁ plan (actions ++ [.emergencyReduceOnlyClose]) attempts).1 := by
    intro x₁ haccount
    unfold verifyEmergencyClose
    dsimp only
    cases hread : exchangeQuantityFor x₁ plan.symbol plan.direction with
    | mk out x₂ =>
      cases out with
      | error e => exact .pending ⟨rfl, rfl, by simp, by simp, by simp⟩
      | ok liveQuantity =>
        dsimp only
        by_cases hflat : liveQuantity ≤ 0
        · rw [if_pos hflat]
          obtain ⟨hlt, hshown⟩ := (exchangeQuantityFor_account hread).2 liveQuantity rfl hflat
          exact .flat x₁.reads haccount.reads hlt (haccount.readsFlat_iff.mp hshown)
        · rw [if_neg hflat]
          exact .pending ⟨rfl, rfl, by simp, by simp, by simp⟩
  unfold escalateEmergency
  rw [hid]
  dsimp only
  cases hsubmit : submitReduceOnlyExit x (plan.emergencyCommand clientOrderId) plan.symbol plan.protectionSide with
  | mk out x₁ =>
    have haccount := (submitReduceOnlyExit_account x (plan.emergencyCommand clientOrderId) plan.symbol plan.protectionSide).1
    rw [hsubmit] at haccount
    cases out with
    | ok receipt => exact ⟨_, rfl, hverify x₁ haccount⟩
    | error e =>
      obtain ⟨m, rfl⟩ := submitReduceOnlyExit_declared hdeclared hsubmit
      exact ⟨_, rfl, hverify x₁ haccount⟩

/-- A plan is of the symbol of its candidate. -/
theorem buildProtectionPlan_symbol {positionId : String} {candidate : TradeCandidate} {price quantity tickSize : ℚ}
    {attempt : ℕ} {plan : ProtectionPlan}
    (h : buildProtectionPlan positionId candidate price quantity tickSize attempt = .ok plan) : plan.symbol = candidate.symbol := by
  obtain ⟨_, _, _, _, -, -, h⟩ := buildProtectionPlan_check h
  exact (check_terms h).2.2.2

/-- A retry is of the same side of the same position. -/
theorem retry_terms {plan plan' : ProtectionPlan} {q : ℚ} {hq : 0 < q} {attempt : ℕ} (h : plan.retry q hq attempt = .ok plan') :
    plan'.positionId = plan.positionId ∧ plan'.attempt = attempt ∧ plan'.symbol = plan.symbol ∧
      plan'.direction = plan.direction := by
  unfold ProtectionPlan.retry at h
  obtain ⟨stopId, -, h⟩ := Loops.bind_eq_ok.mp h
  obtain ⟨tpId, -, h⟩ := Loops.bind_eq_ok.mp h
  cases h
  exact ⟨rfl, rfl, rfl, rfl⟩

/-- The ladder returns, and ends active, flat or pending. -/
theorem protectionAttempts_ends {maxAttempts : ℕ} (n : ℕ) {plan : ProtectionPlan} (hdeclared : x.Declared)
    (hid : plan.positionId ≠ "") (hattempt : 1 ≤ plan.attempt ∧ plan.attempt ≤ maxAttempts)
    (hmint : ∀ k, 1 ≤ k → k ≤ maxAttempts → ∃ c, exitClientOrderId plan.positionId k = .ok c)
    (actions : List ProtectionFailureAction) :
    ∃ result, (protectionAttempts maxAttempts n plan actions x).1 = .ok result ∧
      LadderEnd plan x (protectionAttempts maxAttempts n plan actions x).2 result := by
  induction n generalizing plan actions x with
  | zero => exact escalateEmergency_ends hdeclared (hmint _ hattempt.1 hattempt.2) actions maxAttempts
  | succ n ih =>
    -- the emergency after calls and reads that changed nothing of the account
    have hemergency : ∀ (x₁ : Exchange) (attempts : ℕ), x.SameAccount x₁ →
        ∃ result, (escalateEmergency x₁ plan actions attempts).1 = .ok result ∧
          LadderEnd plan x (escalateEmergency x₁ plan actions attempts).2 result := by
      intro x₁ attempts haccount
      obtain ⟨result, hresult, hend⟩ :=
        escalateEmergency_ends (haccount.declared hdeclared) (hmint _ hattempt.1 hattempt.2) actions attempts
      exact ⟨result, hresult, hend.of_later haccount rfl rfl⟩
    have haccount := submitProtection_account x plan.command plan.symbol plan.protectionSide plan.quantity
    unfold protectionAttempts
    dsimp only
    cases hsubmit : submitProtection x plan.command plan.symbol plan.protectionSide plan.quantity with
    | mk out x₁ =>
      rw [hsubmit] at haccount
      cases out with
      | ok receipts =>
        obtain ⟨stop, target⟩ := receipts
        dsimp only
        by_cases hempty : stop.exchangeOrderId = ""
        · rw [if_pos hempty]
          exact hemergency x₁ _ haccount
        · rw [if_neg hempty]
          refine ⟨_, rfl, .active ?_⟩
          simp [ProtectionResult.isActive, hempty]
      | error e =>
        obtain ⟨m, rfl⟩ := submitProtection_declared hdeclared hsubmit
        simp only [PyError.isProtectionTimeout, PyError.isSubmissionFailure, Bool.false_eq_true, if_false, if_true]
        cases hread : exchangeQuantityFor x₁ plan.symbol plan.direction with
        | mk out x₂ =>
          obtain ⟨haccount₂, hflat⟩ := exchangeQuantityFor_account hread
          have hboth := haccount.trans haccount₂
          cases out with
          | error e => exact hemergency x₂ _ hboth
          | ok liveQuantity =>
            dsimp only
            by_cases hq : 0 < liveQuantity
            · rw [dif_pos hq]
              by_cases hn : n = 0
              · rw [if_pos hn]
                exact hemergency x₂ _ hboth
              · rw [if_neg hn]
                have hnext : 1 ≤ maxAttempts - n + 1 := Nat.le_add_left _ _
                have hlast : maxAttempts - n + 1 ≤ maxAttempts := by omega
                obtain ⟨plan', hretry, -⟩ := retry_isOk hid hq hnext
                obtain ⟨hposition, hattempt', hsymbol, hdirection⟩ := retry_terms hretry
                rw [hretry]
                dsimp only
                obtain ⟨result, hresult, hend⟩ := ih (hboth.declared hdeclared) (hposition ▸ hid)
                  ⟨hattempt' ▸ hnext, hattempt' ▸ hlast⟩ (hposition ▸ hmint) (actions ++ [.retriedSubmission])
                exact ⟨result, hresult, hend.of_later hboth hsymbol hdirection⟩
            · rw [dif_neg hq]
              obtain ⟨hlt, hshown⟩ := hflat liveQuantity rfl (not_lt.mp hq)
              exact ⟨_, rfl, .flat x₁.reads haccount.reads hlt (haccount.readsFlat_iff.mp hshown)⟩

end

end TradingPlatform
