import TradingPlatform.Lemmas.Reconciliation

/-!
# A healthy reconciliation is agreement

`Agreement` says when the exchange and the local projection agree, in the terms of positions, baselines, orders and intents.
`reconcile` is healthy exactly in that case, up to its own tolerance below a captured baseline.
-/

namespace TradingPlatform

open ReconcileAux

/-! ## The statement -/

/-- `reconcile` returned and its status is healthy. -/
def Healthy (x : Except PyError ReconciliationResult) : Prop := ∃ r, x = .ok r ∧ r.status = .healthy

instance (x : Except PyError ReconciliationResult) : Decidable (Healthy x) :=
  match x with
  | .error _ => isFalse (by rintro ⟨r, hr, -⟩; cases hr)
  | .ok r => decidable_of_iff (r.status = .healthy)
      ⟨fun h => ⟨r, rfl, h⟩, by rintro ⟨r', hr, h⟩; cases hr; exact h⟩

/-- At most one exchange position for a symbol and a direction. -/
def UniquePositions (snapshot : AuthoritativeAccountSnapshot) : Prop :=
  snapshot.positions.Pairwise fun e e' => ¬(e.symbol = e'.symbol ∧ e.direction = e'.direction)

/-- No identity claims for two local positions. -/
def DisjointClaims (l : LocalStateView) : Prop :=
  l.positions.Pairwise fun p q => ∀ k ∈ p.claimKeys, k ∉ q.claimKeys

/-- The identities of a local position carry its own id. -/
def ClaimKeysCarryId (l : LocalStateView) : Prop := ∀ p ∈ l.positions, p.positionId ∈ p.claimKeys

/-- The references of an exchange position name local positions of its symbol only. -/
def ClaimRefsKeepSymbol (snapshot : AuthoritativeAccountSnapshot) (l : LocalStateView) (refs : ClaimRefs) : Prop :=
  ∀ e ∈ snapshot.positions, ∀ p ∈ l.positions, (∃ k ∈ p.claimKeys, k ∈ (refs.lookup e.key).getD []) → p.symbol = e.symbol

/-- An exchange position is claimed by a local position of its symbol and direction, which holds the rest of the quantity
over the baseline and whose protection is active and open at the exchange. -/
structure SettledClaim (snapshot : AuthoritativeAccountSnapshot) (l : LocalStateView) (refs : ClaimRefs)
    (e : ExchangePositionSnapshot) (p : LocalPositionView) : Prop where
  claimed : claimedBy l refs e = some p
  symbol : p.symbol = e.symbol
  direction : p.direction = e.direction
  quantity : |p.quantity + (l.baselineOf e).getD 0 - e.quantity| ≤ quantityTolerance
  activeProtection : p.hasActiveProtection = true
  ordersPending : ∀ id ∈ p.protectionExchangeOrderIds, ∃ o ∈ snapshot.pendingOrders, o.exchangeOrderId = id

/-- The exchange and the local state agree. A baseline may be short by `slack`. -/
structure Agreement (slack : ℚ) (snapshot : AuthoritativeAccountSnapshot) (l : LocalStateView) (refs : ClaimRefs) :
    Prop where
  exchangeExplained : ∀ e ∈ snapshot.positions, (∃ p, SettledClaim snapshot l refs e p) ∨
    claimedBy l refs e = none ∧ ∃ b, l.baselineOf e = some b ∧ |e.quantity - b| ≤ quantityTolerance
  localClaimed : ∀ p ∈ l.positions, p.state ≠ .closed → p.state ≠ .quarantined →
    ∃ e ∈ snapshot.positions, SettledClaim snapshot l refs e p
  baselinePresent : ∀ key b, l.externalBaselinePositions.lookup key = some b →
    ∃ e ∈ snapshot.positions, e.key = key ∧ b ≤ e.quantity + slack
  ordersKnown : ∀ o ∈ snapshot.pendingOrders,
    ∃ c, o.clientOrderId = some c ∧ (c ∈ l.knownClientOrderIds ∨ isV2ClientOrderId c = false)
  intentsSettled : ∀ i ∈ l.intents, i.hasConfirmedEntryFill = false ∧ i.hasQuarantinedLifecycle = false

/-! ## The proof -/

namespace AgreementAux

/-- Two local positions of one id are the same position. -/
theorem eq_of_positionId {l : LocalStateView} (hdisj : DisjointClaims l) (hid : ClaimKeysCarryId l) {p q : LocalPositionView}
    (hp : p ∈ l.positions) (hq : q ∈ l.positions) (h : q.positionId = p.positionId) : q = p := by
  by_contra hne
  have hsymm : Std.Symm fun p q : LocalPositionView => ∀ k ∈ p.claimKeys, k ∉ q.claimKeys :=
    ⟨fun _ _ hpq k hk hk' => hpq k hk' hk⟩
  have hpair := List.Pairwise.forall hdisj hq hp hne
  exact hpair q.positionId (hid q hq) (h ▸ hid p hp)

/-- Two positions of the snapshot with one key are the same position. -/
theorem eq_of_key {snapshot : AuthoritativeAccountSnapshot} (huniq : UniquePositions snapshot)
    {e e' : ExchangePositionSnapshot} (he : e ∈ snapshot.positions) (he' : e' ∈ snapshot.positions)
    (h : e.key = e'.key) : e = e' := by
  by_contra hne
  have hsymm : Std.Symm fun e e' : ExchangePositionSnapshot => ¬(e.symbol = e'.symbol ∧ e.direction = e'.direction) :=
    ⟨fun _ _ h h' => h ⟨h'.1.symm, h'.2.symm⟩⟩
  exact List.Pairwise.forall huniq he he' hne (positionKey_inj h)

theorem driftsBelow_eq_false {baseline : Option ℚ} {q : ℚ} :
    driftsBelow baseline q = false ↔ ∀ b, baseline = some b → b ≤ q + quantityTolerance := by
  cases baseline <;> simp [driftsBelow]

theorem equalsBaseline_eq_true {baseline : Option ℚ} {q : ℚ} :
    equalsBaseline baseline q = true ↔ ∃ b, baseline = some b ∧ |q - b| ≤ quantityTolerance := by
  cases baseline <;> simp [equalsBaseline]

/-- A claim that is clean and of one symbol is settled. -/
theorem settledClaim_iff {snapshot : AuthoritativeAccountSnapshot} {l : LocalStateView} {refs : ClaimRefs}
    {e : ExchangePositionSnapshot} {p : LocalPositionView} (hsym : ClaimRefsKeepSymbol snapshot l refs)
    (he : e ∈ snapshot.positions) :
    SettledClaim snapshot l refs e p ↔ claimedBy l refs e = some p ∧ ClaimClean snapshot l e p := by
  constructor
  · rintro ⟨hc, -, hd, hq, ha, ho⟩
    exact ⟨hc, hd, hq, ha, missingProtection_eq_nil.mpr ho⟩
  · rintro ⟨hc, hd, hq, ha, ho⟩
    obtain ⟨hp, hk⟩ := claimedBy_some hc
    exact ⟨hc, hsym e he p hp hk, hd, hq, ha, missingProtection_eq_nil.mp ho⟩

end AgreementAux

open AgreementAux

/-- `reconcile` is healthy exactly when the exchange and the local state agree, a captured baseline being allowed to fall
short by the tolerance. -/
theorem reconcile_healthy_iff_agreement (snapshot : AuthoritativeAccountSnapshot) (l : LocalStateView)
    (reason : Option String) (refs : Option ClaimRefs) (huniq : UniquePositions snapshot) (hdisj : DisjointClaims l)
    (hid : ClaimKeysCarryId l) (hsym : ClaimRefsKeepSymbol snapshot l (refs.getD ∅)) :
    Healthy (reconcile (some snapshot) l reason refs) ↔ Agreement quantityTolerance snapshot l (refs.getD ∅) := by
  unfold Healthy
  rw [reconcile_clean_iff]
  constructor
  · rintro ⟨hi, he, hp, hb, ho⟩
    refine ⟨?_, ?_, ?_, ho, hi⟩
    · intro e hmem
      rcases (he e hmem).2 with ⟨hnone, hbase⟩ | ⟨p, hclaim⟩
      · exact Or.inr ⟨hnone, equalsBaseline_eq_true.mp hbase⟩
      · exact Or.inl ⟨p, (settledClaim_iff hsym hmem).mpr hclaim⟩
    · intro p hmem hclosed hquarantined
      obtain ⟨e, hmem', q, hclaim, hq⟩ := hp p hmem hclosed hquarantined
      -- ids tell local positions apart, so the position that matched is `p` itself
      obtain rfl := eq_of_positionId hdisj hid hmem (claimedBy_some hclaim).1 hq
      refine ⟨e, hmem', ?_⟩
      rcases (he e hmem').2 with ⟨hnone, -⟩ | ⟨p', hclaim', hclean⟩
      · rw [hnone] at hclaim
        nomatch hclaim
      · rw [hclaim'] at hclaim
        cases hclaim
        exact (settledClaim_iff hsym hmem').mpr ⟨hclaim', hclean⟩
    · intro key b hkey
      have hentry : (⟨key, b⟩ : Sigma fun _ : String => ℚ) ∈ l.externalBaselinePositions.entries :=
        AList.mem_lookup_iff.mp hkey
      obtain ⟨e, hmem, rfl⟩ := List.mem_map.mp (hb _ hentry)
      exact ⟨e, hmem, rfl, driftsBelow_eq_false.mp (he e hmem).1 b hkey⟩
  · rintro ⟨he, hp, hb, ho, hi⟩
    refine ⟨hi, ?_, ?_, ?_, ho⟩
    · intro e hmem
      refine ⟨driftsBelow_eq_false.mpr ?_, ?_⟩
      · intro b hbase
        obtain ⟨e', hmem', hkey, hle⟩ := hb e.key b hbase
        obtain rfl := eq_of_key huniq hmem' hmem hkey
        exact hle
      · rcases he e hmem with ⟨p, hclaim⟩ | ⟨hnone, hbase⟩
        · exact Or.inr ⟨p, (settledClaim_iff hsym hmem).mp hclaim⟩
        · exact Or.inl ⟨hnone, equalsBaseline_eq_true.mpr hbase⟩
    · intro p hmem hclosed hquarantined
      obtain ⟨e, hmem', hclaim⟩ := hp p hmem hclosed hquarantined
      exact ⟨e, hmem', p, hclaim.claimed, rfl⟩
    · rintro ⟨key, b⟩ hentry
      obtain ⟨e, hmem, hkey, -⟩ := hb key b (AList.mem_lookup_iff.mpr hentry)
      exact List.mem_map.mpr ⟨e, hmem, hkey⟩

/-! ## Where the exact statement fails -/

/-- One long position of one coin. -/
def oneCoin : ExchangePositionSnapshot := { symbol := "BTC/USDT", direction := .long, quantity := 1 }

/-- A managed position of one coin, protected by order `s1`. -/
def managedCoin (positionId symbol : String) (claimKeys : List String) : LocalPositionView :=
  { positionId, symbol, direction := .long, quantity := 1, state := .isProtected, claimKeys, hasActiveProtection := true,
    protectionExchangeOrderIds := ["s1"] }

/-- The snapshot of one coin with its protection order open. -/
def oneCoinSnapshot : AuthoritativeAccountSnapshot :=
  { positions := [oneCoin],
    pendingOrders := [{ exchangeOrderId := "s1", clientOrderId := some "A2S-1", symbol := "BTC/USDT" }] }

/-- A local state of managed coins. -/
def managedCoins (positions : List LocalPositionView) : LocalStateView :=
  { positions, knownClientOrderIds := ["A2S-1"] }

/-- The references of the one coin. -/
def oneCoinRefs (ref : String) : ClaimRefs := AList.insert "BTC/USDT:long" [ref] ∅

/-- A snapshot of a quantity below one coin by a tenth of the tolerance. -/
def shortSnapshot : AuthoritativeAccountSnapshot :=
  { positions := [{ oneCoin with quantity := 1 - 1 / 1000000000 }] }

/-- A captured baseline of one coin and nothing else. -/
def baselineOnly : LocalStateView := { externalBaselinePositions := AList.insert "BTC/USDT:long" 1 ∅ }

/-- Without the allowances the equivalence fails three times: a baseline may fall short by less than the tolerance, a claim
may name a position of another symbol, and a second local position may share the id of the one that matched. -/
theorem reconcile_healthy_iff_exact_agreement_false :
    (UniquePositions shortSnapshot ∧ DisjointClaims baselineOnly ∧
      ¬(Healthy (reconcile (some shortSnapshot) baselineOnly) ↔ Agreement 0 shortSnapshot baselineOnly ∅)) ∧
    (UniquePositions oneCoinSnapshot ∧ DisjointClaims (managedCoins [managedCoin "p1" "ETH/USDT" ["p1"]]) ∧
      ¬(Healthy (reconcile (some oneCoinSnapshot) (managedCoins [managedCoin "p1" "ETH/USDT" ["p1"]]) none
          (some (oneCoinRefs "p1"))) ↔
        Agreement 0 oneCoinSnapshot (managedCoins [managedCoin "p1" "ETH/USDT" ["p1"]]) (oneCoinRefs "p1"))) ∧
    (UniquePositions oneCoinSnapshot ∧
      DisjointClaims (managedCoins [managedCoin "p1" "BTC/USDT" ["a"], managedCoin "p1" "BTC/USDT" ["b"]]) ∧
      ¬(Healthy (reconcile (some oneCoinSnapshot)
          (managedCoins [managedCoin "p1" "BTC/USDT" ["a"], managedCoin "p1" "BTC/USDT" ["b"]]) none
          (some (oneCoinRefs "a"))) ↔
        Agreement 0 oneCoinSnapshot
          (managedCoins [managedCoin "p1" "BTC/USDT" ["a"], managedCoin "p1" "BTC/USDT" ["b"]]) (oneCoinRefs "a"))) := by
  refine ⟨⟨?_, ?_, ?_⟩, ⟨?_, ?_, ?_⟩, ?_, ?_, ?_⟩
  · simp [UniquePositions, shortSnapshot]
  · simp [DisjointClaims, baselineOnly]
  · intro h
    have hagree := h.mp (by decide +kernel)
    obtain ⟨e, he, -, hle⟩ := hagree.baselinePresent "BTC/USDT:long" 1 (by decide +kernel)
    obtain rfl := List.mem_singleton.mp he
    exact absurd hle (by decide +kernel)
  · simp [UniquePositions, oneCoinSnapshot]
  · simp [DisjointClaims, managedCoins]
  · intro h
    have hagree := h.mp (by decide +kernel)
    rcases hagree.exchangeExplained oneCoin (List.mem_singleton.mpr rfl) with ⟨p, hp⟩ | ⟨hnone, -⟩
    · obtain rfl := List.mem_singleton.mp (claimedBy_some hp.claimed).1
      exact absurd hp.symbol (by decide +kernel)
    · exact absurd hnone (by decide +kernel)
  · simp [UniquePositions, oneCoinSnapshot]
  · simp [DisjointClaims, managedCoins, managedCoin]
  · intro h
    have hagree := h.mp (by decide +kernel)
    obtain ⟨e, he, hclaim⟩ := hagree.localClaimed (managedCoin "p1" "BTC/USDT" ["b"])
      (List.mem_cons_of_mem _ (List.mem_singleton.mpr rfl)) (by decide) (by decide)
    obtain rfl := List.mem_singleton.mp he
    exact absurd hclaim.claimed (by decide +kernel)

/-- A managed coin under protection beside nothing else: the exchange and the local state agree. -/
theorem managedCoin_agrees :
    Healthy (reconcile (some oneCoinSnapshot) (managedCoins [managedCoin "p1" "BTC/USDT" ["p1"]]) none
      (some (oneCoinRefs "p1"))) ∧
    Agreement quantityTolerance oneCoinSnapshot (managedCoins [managedCoin "p1" "BTC/USDT" ["p1"]]) (oneCoinRefs "p1") := by
  have hhealthy : Healthy (reconcile (some oneCoinSnapshot) (managedCoins [managedCoin "p1" "BTC/USDT" ["p1"]]) none
      (some (oneCoinRefs "p1"))) := by decide +kernel
  refine ⟨hhealthy, (reconcile_healthy_iff_agreement _ _ none (some (oneCoinRefs "p1")) ?_ ?_ ?_ ?_).mp hhealthy⟩
  · simp [UniquePositions, oneCoinSnapshot]
  · simp [DisjointClaims, managedCoins]
  · simp [ClaimKeysCarryId, managedCoins, managedCoin]
  · simp [ClaimRefsKeepSymbol, managedCoins, managedCoin, oneCoinSnapshot, oneCoin]

end TradingPlatform
