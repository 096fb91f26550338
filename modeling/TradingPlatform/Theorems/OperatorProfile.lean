import TradingPlatform.Engine.OperatorProfile

/-!
# What tiers and volatility can change

Tiers and volatility only tighten what the profile allows, but for the leverage of a profile that names none: there a tier may
raise it. The volatility tiers that are built give a riskier symbol no larger a share, and one without a score no entry.
-/

namespace TradingPlatform

/-! ## Statements -/

/-- The profile without its tiers. -/
def ExecutionProfile.withoutTiers (p : ExecutionProfile) : ExecutionProfile :=
  { p with assetRiskTiers := [], volatilityRiskTiers := [] }

/-- The settings are within the bounds of the directional lane and no wider than others, the leverage apart. -/
structure V2ExecutionSettings.Within (s b : V2ExecutionSettings) : Prop where
  risk : s.riskPerTrade ≤ b.riskPerTrade
  margin : s.maxMarginFraction ≤ b.maxMarginFraction
  position : s.maxPositionFraction ≤ b.maxPositionFraction
  marginCap : s.maxMarginFraction ≤ 1 / 20
  positionCap : s.maxPositionFraction ≤ 5 / 2
  leveragePos : 1 ≤ s.maxLeverage
  scaled : s.maxLeverage ≤ s.tierRecommendedLeverage
  leverageCap : s.tierRecommendedLeverage ≤ 50

/-- The share of a symbol under the tiers that are built of scores, and whether its entries are refused. -/
def volatilityShare (normalize : String → String) (scores : List (String × ℚ)) (required : List String) (symbol : String) :
    ℚ × Bool :=
  resolveVolatilityAdjustment normalize symbol (buildVolatilityRiskTiers normalize scores required)

namespace OperatorProfileAux

variable {normalize : String → String} {symbol x : String} {p : ExecutionProfile} {e : Envelope}

/-! ## Tiers -/

/-- A tier within the bounds of the directional lane, none of whose ceilings is negative. -/
structure Capped (t : AssetRiskTierSettings) : Prop where
  leverage : 1 ≤ t.leverage ∧ t.leverage ≤ 50
  position : 0 ≤ t.maxPositionFraction
  risk : ∀ r ∈ t.riskPerTrade, 0 ≤ r
  margin : ∀ m ∈ t.maxMarginFraction, 0 ≤ m

theorem capped_leverage (value : ℚ) : 1 ≤ capDirectionalLeverage value ∧ capDirectionalLeverage value ≤ 50 :=
  ⟨le_max_left _ _, max_le (by norm_num) (min_le_left _ _)⟩

theorem capped_settings {q : AssetTierPayload} (hvalid : q.valid = true) (name : String) (leverage positionFraction : ℚ) :
    Capped (q.settings name leverage positionFraction) := by
  unfold AssetTierPayload.valid at hvalid
  simp only [Bool.and_eq_true, Option.all_eq_true, decide_eq_true_eq] at hvalid
  obtain ⟨⟨hrisk, _⟩, hmargin⟩ := hvalid
  refine ⟨capped_leverage leverage, le_max_of_le_left (by norm_num), ?_, ?_⟩
  · intro r hr
    exact (hrisk r hr).1.le
  · intro m hm
    exact (hmargin m hm).1.le

theorem resolveTier_capped {tiers : List (String × AssetTierPayload)} {fallback : Option AssetRiskTierSettings}
    (hfallback : ∀ t ∈ fallback, Capped t) {found : Option AssetRiskTierSettings}
    (h : resolveTier normalize symbol fallback tiers = some found) : ∀ t ∈ found, Capped t := by
  induction tiers generalizing fallback with
  | nil =>
    cases h
    exact hfallback
  | cons head rest ih =>
    obtain ⟨name, q⟩ := head
    simp only [resolveTier] at h
    split at h
    · split at h
      · rename_i hvalid
        split at h
        · cases h
          intro t ht
          cases ht
          exact capped_settings hvalid name _ _
        · refine ih ?_ h
          split
          · intro t ht
            cases ht
            exact capped_settings hvalid name _ _
          · exact hfallback
      · cases h
    · split at h
      · cases h
      · exact ih hfallback h
    · exact ih hfallback h

theorem resolveAssetRiskTier_capped {tiers : List (String × AssetTierPayload)} {t : AssetRiskTierSettings}
    (h : resolveAssetRiskTier normalize symbol tiers = some t) : Capped t := by
  obtain ⟨found, hfound, hor⟩ := Option.bind_eq_some_iff.mp h
  have hcapped := resolveTier_capped (fun t ht => by cases ht) hfound
  cases found with
  | some tier =>
    cases hor
    exact hcapped t rfl
  | none =>
    have hdefault : defaultTier (tiers.filter fun t => !t.1.startsWith "_") = some t := hor
    unfold defaultTier at hdefault
    split at hdefault
    · dsimp only at hdefault
      split at hdefault
      · rename_i hvalid
        cases hdefault
        exact capped_settings hvalid _ _ _
      · cases hdefault
    · cases hdefault
      exact capped_settings rfl _ _ _

theorem tightened_le (value : ℚ) (ceiling : Option ℚ) : tightened value ceiling ≤ value := by
  cases ceiling with
  | none => exact le_rfl
  | some c => exact min_le_left _ _

theorem tightened_le_ceiling {value c : ℚ} {ceiling : Option ℚ} (h : ceiling = some c) : tightened value ceiling ≤ c := by
  rw [h]
  exact min_le_right _ _

theorem le_tightened {value lower : ℚ} {ceiling : Option ℚ} (hvalue : lower ≤ value) (hceiling : ∀ c ∈ ceiling, lower ≤ c) :
    lower ≤ tightened value ceiling := by
  cases ceiling with
  | none => exact hvalue
  | some c => exact le_min hvalue (hceiling c rfl)

theorem adjustment_bounds (normalize : String → String) (symbol : String) (tiers : List VolatilityRiskTierSettings) :
    0 < (resolveVolatilityAdjustment normalize symbol tiers).1 ∧ (resolveVolatilityAdjustment normalize symbol tiers).1 ≤ 1 := by
  unfold resolveVolatilityAdjustment
  split
  · rename_i t _
    exact ⟨lt_min t.multiplier_pos one_pos, min_le_right _ _⟩
  · exact ⟨one_pos, le_rfl⟩

/-- A scale that only lowers. -/
theorem scale_le {value multiplier : ℚ} (hvalue : 0 ≤ value) :
    (if multiplier < 1 then value * multiplier else value) ≤ value := by
  split
  · rename_i hlt
    exact mul_le_of_le_one_right hvalue hlt.le
  · exact le_rfl

/-- The settings of limits that are within those of the profile. -/
theorem within_settings {adjustment : ℚ × Bool} (hadjustment : 0 < adjustment.1 ∧ adjustment.1 ≤ 1)
    (hrisk : 0 ≤ e.riskPerTrade ∧ e.riskPerTrade ≤ p.envelope.riskPerTrade)
    (hmargin : 0 ≤ e.maxMarginFraction ∧ e.maxMarginFraction ≤ p.envelope.maxMarginFraction)
    (hposition : 0 ≤ e.maxPositionFraction ∧ e.maxPositionFraction ≤ p.envelope.maxPositionFraction)
    (hleverage : 1 ≤ e.leverage ∧ e.leverage ≤ 50) :
    (p.settings e adjustment).Within (p.settings p.envelope (1, false)) := by
  have hmarginCap : p.envelope.maxMarginFraction ≤ 1 / 20 := min_le_right _ _
  have hpositionCap : p.envelope.maxPositionFraction ≤ 5 / 2 := max_le (by norm_num) (min_le_left _ _)
  have hone : ¬((1 : ℚ), false).1 < 1 := lt_irrefl _
  have hfloor : (1 : ℤ) ≤ ⌊e.leverage⌋ := Int.le_floor.mpr (by exact_mod_cast hleverage.1)
  simp only [ExecutionProfile.settings, if_neg hone]
  constructor
  · dsimp only
    exact (scale_le hrisk.1).trans hrisk.2
  · dsimp only
    exact (scale_le hmargin.1).trans hmargin.2
  · dsimp only
    exact (scale_le hposition.1).trans hposition.2
  · exact (scale_le hmargin.1).trans (hmargin.2.trans hmarginCap)
  · exact (scale_le hposition.1).trans (hposition.2.trans hpositionCap)
  · dsimp only
    split
    · exact le_max_left _ _
    · exact hfloor
  · dsimp only
    split
    · refine max_le hfloor (Int.floor_le_floor ?_)
      exact mul_le_of_le_one_right (zero_le_one.trans hleverage.1) hadjustment.2
    · exact le_rfl
  · have hcap : (⌊e.leverage⌋ : ℚ) ≤ 50 := (Int.floor_le _).trans hleverage.2
    exact_mod_cast hcap

theorem envelope_nonneg (p : ExecutionProfile) :
    0 ≤ p.envelope.riskPerTrade ∧ 0 ≤ p.envelope.maxMarginFraction ∧ 0 ≤ p.envelope.maxPositionFraction := by
  refine ⟨?_, le_min ?_ (by norm_num), le_max_of_le_left (by norm_num)⟩
  · cases hrisk : p.riskPerTrade with
    | none => simp [ExecutionProfile.envelope, hrisk]
    | some r => simpa [ExecutionProfile.envelope, hrisk] using p.riskPerTrade_nonneg r hrisk
  · cases hmargin : p.maxMarginFraction with
    | none => norm_num
    | some m => exact p.maxMarginFraction_nonneg m hmargin

/-- The limits under a tier are within those of the profile. -/
theorem within_tierEnvelope {t : AssetRiskTierSettings} (ht : Capped t) {adjustment : ℚ × Bool}
    (hadjustment : 0 < adjustment.1 ∧ adjustment.1 ≤ 1) :
    (p.settings (p.tierEnvelope t) adjustment).Within (p.settings p.envelope (1, false)) := by
  obtain ⟨hrisk, hmargin, hposition⟩ := envelope_nonneg p
  refine within_settings hadjustment ⟨le_tightened hrisk ht.risk, tightened_le _ _⟩
    ⟨le_tightened hmargin ht.margin, tightened_le _ _⟩ ⟨le_min ht.position hposition, min_le_right _ _⟩ ⟨?_, ?_⟩
  · refine le_tightened (le_tightened ht.leverage.1 ?_) ?_
    · intro c hc
      obtain ⟨l, _, rfl⟩ := Option.map_eq_some_iff.mp hc
      exact (capped_leverage l).1
    · intro c hc
      obtain ⟨l, _, rfl⟩ := Option.map_eq_some_iff.mp hc
      exact (capped_leverage l).1
  · exact (tightened_le _ _).trans ((tightened_le _ _).trans ht.leverage.2)

theorem capDirectionalLeverage_thirty : capDirectionalLeverage 30 = 30 := by
  norm_num [capDirectionalLeverage]

/-- The leverage of the profile is an upper bound where the profile names it, and else where the other is below 31. -/
theorem recommended_le_iff {adjustment : ℚ × Bool} (hnamed : p.maxLeverage ≠ none → e.leverage ≤ p.envelope.leverage) :
    (p.settings e adjustment).tierRecommendedLeverage ≤ (p.settings p.envelope (1, false)).maxLeverage ↔
      p.maxLeverage ≠ none ∨ e.leverage < 31 := by
  have hone : ¬((1 : ℚ), false).1 < 1 := lt_irrefl _
  simp only [ExecutionProfile.settings, if_neg hone]
  by_cases hmax : p.maxLeverage = none
  · have hthirty : ⌊p.envelope.leverage⌋ = 30 := by
      simp only [ExecutionProfile.envelope, hmax, Option.getD_none, capDirectionalLeverage_thirty]
      norm_num
    have hfloor : ⌊e.leverage⌋ < 31 ↔ e.leverage < 31 := by exact_mod_cast Int.floor_lt (a := e.leverage) (z := 31)
    rw [hthirty, ← hfloor, or_iff_right (not_not.mpr hmax)]
    omega
  · simp [Int.floor_le_floor (hnamed hmax), hmax]

theorem tierEnvelope_leverage_le (t : AssetRiskTierSettings) (hnamed : p.maxLeverage ≠ none) :
    (p.tierEnvelope t).leverage ≤ p.envelope.leverage := by
  obtain ⟨l, hl⟩ := Option.ne_none_iff_exists'.mp hnamed
  refine (tightened_le _ _).trans (tightened_le_ceiling ?_)
  simp only [ExecutionProfile.envelope, hl, Option.map_some, Option.getD_some]

/-! ## Volatility -/

/-- The scores under the names of the platform. -/
def normalized (normalize : String → String) (scores : List (String × ℚ)) : List (String × ℚ) :=
  scores.map fun a => (normalize a.1, a.2)

theorem normalized_names (normalize : String → String) (scores : List (String × ℚ)) :
    (normalized normalize scores).map Prod.fst = scores.map fun a => normalize a.1 := List.map_map

/-- The scores in three parts by their values, the outer parts of one length. -/
structure Terciles (normalize : String → String) (scores low mid high : List (String × ℚ)) : Prop where
  perm : (low ++ mid ++ high).Perm (normalized normalize scores)
  sorted : (low ++ mid ++ high).Pairwise fun a b => a.2 ≤ b.2
  balanced : low.length = high.length
  classified : classifySymbolsByAtrPct normalize scores = (low.map Prod.fst, mid.map Prod.fst, high.map Prod.fst)

/-- A list is its first part, its middle and its last part. -/
theorem take_middle_drop {α : Type} (l : List α) {i j : ℕ} (h : i ≤ j) : l.take i ++ (l.take j).drop i ++ l.drop j = l := by
  have hfront : l.take i = (l.take j).take i := by rw [List.take_take, min_eq_left h]
  rw [hfront, List.take_append_drop, List.take_append_drop]

theorem exists_terciles (normalize : String → String) (scores : List (String × ℚ)) :
    ∃ low mid high, Terciles normalize scores low mid high := by
  have hperm := sortOn_perm Prod.snd (normalized normalize scores)
  have hsorted : (sortOn Prod.snd (normalized normalize scores)).Pairwise fun a b => a.2 ≤ b.2 :=
    List.pairwise_insertionSort (byKey Prod.snd) _
  have hparts : ∃ low mid high : List (String × ℚ),
      low ++ mid ++ high = sortOn Prod.snd (normalized normalize scores) ∧ low.length = high.length ∧
        classifySymbolsByAtrPct normalize scores = (low.map Prod.fst, mid.map Prod.fst, high.map Prod.fst) := by
    unfold classifySymbolsByAtrPct
    unfold normalized
    generalize sortOn Prod.snd (scores.map fun a => (normalize a.1, a.2)) = ordered
    dsimp only
    rw [List.length_map]
    split
    · rename_i hzero
      exact ⟨[], [], [], (List.length_eq_zero_iff.mp hzero).symm, rfl, rfl⟩
    · split
      · exact ⟨[], ordered, [], by simp, rfl, rfl⟩
      · split
        · rename_i htwo
          refine ⟨ordered.take 1, [], ordered.drop 1, ?_, by simp [htwo], ?_⟩
          · rw [List.append_nil, List.take_append_drop]
          · rw [List.map_take, List.map_drop, List.map_nil]
        · refine ⟨_, _, _, take_middle_drop ordered (i := max 1 (ordered.length / 3))
            (j := ordered.length - max 1 (ordered.length / 3)) (by omega), ?_, ?_⟩
          · rw [List.length_take, List.length_drop]
            omega
          · rw [List.map_take, List.map_drop, List.map_take, List.map_drop]
  obtain ⟨low, mid, high, happend, hbalanced, hclassified⟩ := hparts
  exact ⟨low, mid, high, happend ▸ hperm, happend ▸ hsorted, hbalanced, hclassified⟩

/-! ### Names of the platform -/

theorem withoutSettlement_of_notMem {l : List Char} (h : ':' ∉ l) : withoutSettlement l = l := by
  fun_induction withoutSettlement l with
  | case1 rest ih => exact absurd List.mem_cons_self h
  | case2 c rest hne ih => rw [ih (List.not_mem_of_not_mem_cons h)]
  | case3 => rfl

/-- `upper` moves the code of a lower case letter only. -/
theorem toUpper_toNat (c : Char) : c.toUpper.toNat = if 97 ≤ c.toNat ∧ c.toNat ≤ 122 then c.toNat - 32 else c.toNat := by
  unfold Char.toUpper
  simp only [Char.toNat, UInt32.le_iff_toNat_le]
  split_ifs with h h' h'
  · rw [UInt32.toNat_add]
    simp at h ⊢
    omega
  · simp at h h'
    omega
  · simp at h h'
    omega
  · rfl

theorem toUpper_toUpper (c : Char) : c.toUpper.toUpper = c.toUpper := by
  rw [← Char.toNat_inj]
  grind [toUpper_toNat]

theorem colon_notMem_upper {l : List Char} (h : ':' ∉ l) : ':' ∉ l.map Char.toUpper := by
  intro hmem
  obtain ⟨c, hc, hcolon⟩ := List.mem_map.mp hmem
  have hcode := toUpper_toNat c
  rw [hcolon] at hcode
  have heq : c = ':' := by
    rw [← Char.toNat_inj]
    grind
  exact h (heq ▸ hc)

/-- A symbol with a quote currency and no settlement currency is named by its upper case. -/
theorem normalizeSymbol_eq {table : String → Option String} {symbol : String} (hquote : '/' ∈ symbol.toList)
    (hplain : ':' ∉ symbol.toList) : normalizeSymbol table symbol = String.ofList (symbol.toList.map Char.toUpper) := by
  have hslash : '/' ∈ symbol.toList.map Char.toUpper := List.mem_map.mpr ⟨'/', hquote, rfl⟩
  simp only [normalizeSymbol, exchangeToPlatformSymbol, canonicalMarketSymbol, if_pos hslash, String.toList_ofList,
    withoutSettlement_of_notMem (colon_notMem_upper hplain)]

/-- Its name is its own name: what the volatility tiers ask of every symbol. -/
theorem normalizeSymbol_stable {table : String → Option String} {symbol : String} (hquote : '/' ∈ symbol.toList)
    (hplain : ':' ∉ symbol.toList) : normalizeSymbol table (normalizeSymbol table symbol) = normalizeSymbol table symbol := by
  rw [normalizeSymbol_eq hquote hplain, normalizeSymbol_eq (by simpa using ⟨'/', hquote, rfl⟩)
    (by simpa using colon_notMem_upper hplain)]
  simp only [String.toList_ofList, List.map_map, Function.comp_def, toUpper_toUpper]

section Share

variable {scores low mid high part : List (String × ℚ)} {required : List String} {a : String × ℚ}

/-- The required symbols that have no score, under the names of the platform. -/
def missing (normalize : String → String) (scores : List (String × ℚ)) (required : List String) : List String :=
  (required.map normalize).filter fun y => decide (y ∉ scores.map fun a => normalize a.1)

/-- The names of a part, normalized again. -/
theorem part_stable (hstable : ∀ y ∈ scores.map Prod.fst ++ required, normalize (normalize y) = normalize y)
    (hpart : ∀ y ∈ part, y ∈ normalized normalize scores) : (part.map Prod.fst).map normalize = part.map Prod.fst := by
  rw [List.map_map]
  refine List.map_congr_left fun y hy => ?_
  obtain ⟨a, ha, rfl⟩ := List.mem_map.mp (hpart y hy)
  exact hstable a.1 (List.mem_append_left _ (List.mem_map_of_mem ha))

theorem missing_stable (hstable : ∀ y ∈ scores.map Prod.fst ++ required, normalize (normalize y) = normalize y) :
    (missing normalize scores required).map normalize = missing normalize scores required := by
  conv_rhs => rw [← List.map_id (missing normalize scores required)]
  refine List.map_congr_left fun y hy => ?_
  obtain ⟨x, hx, rfl⟩ := List.mem_map.mp (List.mem_filter.mp hy).1
  exact hstable x (List.mem_append_right _ hx)

/-- The share by the part that names the symbol. -/
theorem volatilityShare_eq (ht : Terciles normalize scores low mid high)
    (hstable : ∀ y ∈ scores.map Prod.fst ++ required, normalize (normalize y) = normalize y) (x : String) :
    volatilityShare normalize scores required x =
      if normalize x ∈ low.map Prod.fst then (1, false)
      else if normalize x ∈ mid.map Prod.fst then (3 / 4, false)
      else if normalize x ∈ high.map Prod.fst then (1 / 2, false)
      else if normalize x ∈ missing normalize scores required then (1 / 4, true)
      else (1, false) := by
  have hlow := part_stable hstable fun y hy => ht.perm.subset (List.mem_append_left _ (List.mem_append_left _ hy))
  have hmid := part_stable hstable fun y hy => ht.perm.subset (List.mem_append_left _ (List.mem_append_right _ hy))
  have hhigh := part_stable hstable fun y hy => ht.perm.subset (List.mem_append_right _ hy)
  have hmissing := missing_stable hstable
  unfold missing at hmissing
  unfold volatilityShare resolveVolatilityAdjustment buildVolatilityRiskTiers missing
  rw [ht.classified]
  simp only [List.find?_cons, List.find?_nil, hlow, hmid, hhigh, hmissing]
  by_cases h1 : normalize x ∈ low.map Prod.fst
  · simp only [h1, decide_true, if_true, min_self]
  by_cases h2 : normalize x ∈ mid.map Prod.fst
  · simp only [h1, h2, decide_true, decide_false, if_true, if_false, min_eq_left three_quarters_le]
  by_cases h3 : normalize x ∈ high.map Prod.fst
  · simp only [h1, h2, h3, decide_true, decide_false, if_true, if_false, min_eq_left one_half_lt_one.le]
  simp only [h1, h2, h3, decide_false, if_false]
  split
  · rename_i t hfound
    split at hfound
    · rename_i hmem
      cases hfound
      rw [if_pos (of_decide_eq_true hmem), min_eq_left quarter_le]
    · cases hfound
  · rename_i hfound
    split at hfound
    · cases hfound
    · rename_i hmem
      rw [if_neg (of_decide_eq_false hmem)]

/-- A part names a score exactly where it holds it. -/
theorem mem_names_iff (hscores : (scores.map fun a => normalize a.1).Nodup)
    (hpart : ∀ y ∈ part, y ∈ normalized normalize scores) (ha : a ∈ scores) :
    normalize a.1 ∈ part.map Prod.fst ↔ (normalize a.1, a.2) ∈ part := by
  constructor
  · intro h
    obtain ⟨y, hy, hname⟩ := List.mem_map.mp h
    have hsame : y = (normalize a.1, a.2) :=
      List.inj_on_of_nodup_map (f := Prod.fst) (normalized_names normalize scores ▸ hscores) (hpart y hy)
        (List.mem_map_of_mem ha) hname
    exact hsame ▸ hy
  · exact fun h => List.mem_map_of_mem h

/-- The share of a symbol that has a score. -/
theorem volatilityShare_scored (ht : Terciles normalize scores low mid high)
    (hscores : (scores.map fun a => normalize a.1).Nodup)
    (hstable : ∀ y ∈ scores.map Prod.fst ++ required, normalize (normalize y) = normalize y) (ha : a ∈ scores) :
    (normalize a.1, a.2) ∈ low ∧ volatilityShare normalize scores required a.1 = (1, false) ∨
      (normalize a.1, a.2) ∈ mid ∧ volatilityShare normalize scores required a.1 = (3 / 4, false) ∨
        (normalize a.1, a.2) ∈ high ∧ volatilityShare normalize scores required a.1 = (1 / 2, false) := by
  have hlow : normalize a.1 ∈ low.map Prod.fst ↔ (normalize a.1, a.2) ∈ low :=
    mem_names_iff hscores (fun y hy => ht.perm.subset (List.mem_append_left _ (List.mem_append_left _ hy))) ha
  have hmid : normalize a.1 ∈ mid.map Prod.fst ↔ (normalize a.1, a.2) ∈ mid :=
    mem_names_iff hscores (fun y hy => ht.perm.subset (List.mem_append_left _ (List.mem_append_right _ hy))) ha
  have hhigh : normalize a.1 ∈ high.map Prod.fst ↔ (normalize a.1, a.2) ∈ high :=
    mem_names_iff hscores (fun y hy => ht.perm.subset (List.mem_append_right _ hy)) ha
  have hmem : (normalize a.1, a.2) ∈ low ++ mid ++ high := ht.perm.mem_iff.mpr (List.mem_map_of_mem ha)
  rw [volatilityShare_eq ht hstable]
  by_cases h1 : (normalize a.1, a.2) ∈ low
  · exact Or.inl ⟨h1, if_pos (hlow.mpr h1)⟩
  rw [if_neg (mt hlow.mp h1)]
  by_cases h2 : (normalize a.1, a.2) ∈ mid
  · exact Or.inr (Or.inl ⟨h2, if_pos (hmid.mpr h2)⟩)
  rw [if_neg (mt hmid.mp h2)]
  have h3 : (normalize a.1, a.2) ∈ high := by
    rcases List.mem_append.mp hmem with h | h
    · rcases List.mem_append.mp h with h | h
      · exact absurd h h1
      · exact absurd h h2
    · exact h
  exact Or.inr (Or.inr ⟨h3, if_pos (hhigh.mpr h3)⟩)

/-- As many of a list of distinct values are counted as a part of it holds. -/
theorem countP_mem {α : Type} {l part : List α} (hl : l.Nodup) (hpart : part.Nodup) (hsub : ∀ y ∈ part, y ∈ l) {p : α → Bool}
    (hp : ∀ y ∈ l, p y = true ↔ y ∈ part) : l.countP p = part.length := by
  rw [List.countP_eq_length_filter]
  refine ((List.perm_ext_iff_of_nodup (hl.filter _) hpart).mpr fun y => ?_).length_eq
  rw [List.mem_filter]
  exact ⟨fun h => (hp y h.1).mp h.2, fun h => ⟨hsub y h, (hp y (hsub y h)).mpr h⟩⟩

/-- The scores that have a share are as many as the part that holds exactly these. -/
theorem countP_share (hscores : (scores.map fun a => normalize a.1).Nodup) (hpart : part.Nodup)
    (hsub : ∀ y ∈ part, y ∈ normalized normalize scores) {value : ℚ}
    (hshare : ∀ a ∈ scores, (volatilityShare normalize scores required a.1).1 = value ↔ (normalize a.1, a.2) ∈ part) :
    (scores.countP fun a => decide ((volatilityShare normalize scores required a.1).1 = value)) = part.length := by
  classical
  have hnodup : (normalized normalize scores).Nodup := List.Nodup.of_map Prod.fst (normalized_names normalize scores ▸ hscores)
  rw [← countP_mem hnodup hpart hsub (p := fun y => decide (y ∈ part)) fun y _ => decide_eq_true_iff, normalized, List.countP_map]
  refine List.countP_congr fun a ha => ?_
  rw [decide_eq_true_iff, Function.comp_apply, decide_eq_true_iff]
  exact hshare a ha

end Share

end OperatorProfileAux

open OperatorProfileAux

/-! ## Results -/

/-- The leverage of a tier by itself. -/
def AssetRiskTierSettings.ownLeverage (t : AssetRiskTierSettings) : ℚ :=
  tightened t.leverage (t.maxLeverage.map capDirectionalLeverage)

/-- Tiers and volatility narrow the settings of the profile. The leverage that is recommended is within that of the profile
exactly where the profile names a leverage or the tier of the symbol, if there is one, has a leverage of its own below 31. -/
theorem settings_tightened {normalize : String → String} {symbol : String} {p : ExecutionProfile} {s : V2ExecutionSettings}
    (h : resolveV2ExecutionSettings normalize symbol p = some s) :
    ∃ b, resolveV2ExecutionSettings normalize symbol p.withoutTiers = some b ∧ s.Within b ∧
      (s.tierRecommendedLeverage ≤ b.maxLeverage ↔ p.maxLeverage ≠ none ∨ p.assetRiskTiers = [] ∨
        ∃ t, resolveAssetRiskTier normalize symbol p.assetRiskTiers = some t ∧ t.ownLeverage < 31) := by
  have hadjustment := adjustment_bounds normalize symbol p.volatilityRiskTiers
  refine ⟨p.settings p.envelope (1, false), rfl, ?_⟩
  unfold resolveV2ExecutionSettings at h
  dsimp only at h
  split at h
  · rename_i hempty
    cases h
    obtain ⟨hrisk, hmargin, hposition⟩ := envelope_nonneg p
    refine ⟨within_settings hadjustment ⟨hrisk, le_rfl⟩ ⟨hmargin, le_rfl⟩ ⟨hposition, le_rfl⟩ (capped_leverage _),
      iff_of_true ?_ (.inr (.inl hempty))⟩
    simp [ExecutionProfile.settings]
  · rename_i htiers
    obtain ⟨t, ht, rfl⟩ := Option.map_eq_some_iff.mp h
    refine ⟨within_tierEnvelope (resolveAssetRiskTier_capped ht) hadjustment,
      (recommended_le_iff (tierEnvelope_leverage_le t)).trans ?_⟩
    by_cases hmax : p.maxLeverage = none
    · have hown : (p.tierEnvelope t).leverage = t.ownLeverage := by
        simp [ExecutionProfile.tierEnvelope, AssetRiskTierSettings.ownLeverage, hmax, tightened]
      rw [hown]
      simp [hmax, htiers, ht]
    · exact iff_of_true (.inl hmax) (.inl hmax)

namespace OperatorProfileAux

/-- A tier of leverage 50 under a profile that names no leverage. -/
def sampleTieredProfile : ExecutionProfile where
  assetRiskTiers := [("standard", { leverage := some 50, maxPositionFraction := some 1 })]

end OperatorProfileAux

theorem settings_tightened_raised : ∃ s b, resolveV2ExecutionSettings id "BTC/USDT" sampleTieredProfile = some s ∧
    resolveV2ExecutionSettings id "BTC/USDT" sampleTieredProfile.withoutTiers = some b ∧ s.Within b ∧
      b.maxLeverage < s.tierRecommendedLeverage := by
  have hleverage : (resolveV2ExecutionSettings id "BTC/USDT" sampleTieredProfile).map
      V2ExecutionSettings.tierRecommendedLeverage = some 50 := by decide +kernel
  obtain ⟨s, hs, hfifty⟩ := Option.map_eq_some_iff.mp hleverage
  obtain ⟨b, hb, hwithin, hiff⟩ := settings_tightened hs
  refine ⟨s, b, hs, hb, hwithin, lt_of_not_ge fun hle => ?_⟩
  rcases hiff.mp hle with hnamed | hempty | ⟨t, ht, hbelow⟩
  · exact hnamed rfl
  · cases hempty
  · have hown : ∀ t ∈ resolveAssetRiskTier id "BTC/USDT" sampleTieredProfile.assetRiskTiers, t.ownLeverage = 50 := by
      decide +kernel
    rw [hown t ht] at hbelow
    norm_num at hbelow

/-- Of tiers that are built of scores: a symbol with a score may enter, at no less than half its limits and at no more than a
symbol of a lower score; as many are left alone as are halved. One without a score may not enter where it is required, and is
left alone elsewhere. -/
theorem volatility_ranked {normalize : String → String} {scores : List (String × ℚ)} {required : List String}
    (hscores : (scores.map fun a => normalize a.1).Nodup)
    (hstable : ∀ y ∈ scores.map Prod.fst ++ required, normalize (normalize y) = normalize y) :
    (∀ a ∈ scores, 1 / 2 ≤ (volatilityShare normalize scores required a.1).1 ∧
      (volatilityShare normalize scores required a.1).2 = false) ∧
    (∀ a ∈ scores, ∀ b ∈ scores, a.2 < b.2 →
      (volatilityShare normalize scores required b.1).1 ≤ (volatilityShare normalize scores required a.1).1) ∧
    (scores.countP fun a => decide ((volatilityShare normalize scores required a.1).1 = 1)) =
      (scores.countP fun a => decide ((volatilityShare normalize scores required a.1).1 = 1 / 2)) ∧
    ∀ x, (normalize x ∉ scores.map fun a => normalize a.1) →
      volatilityShare normalize scores required x = if normalize x ∈ required.map normalize then (1 / 4, true) else (1, false) := by
  obtain ⟨low, mid, high, ht⟩ := exists_terciles normalize scores
  have hscored := fun a (ha : a ∈ scores) => volatilityShare_scored ht hscores hstable ha
  have hnodup : (low ++ mid ++ high).Nodup :=
    ht.perm.nodup_iff.mpr (List.Nodup.of_map Prod.fst (normalized_names normalize scores ▸ hscores))
  obtain ⟨hfront, hhighNodup, hapart⟩ := List.nodup_append.mp hnodup
  obtain ⟨hlowNodup, _, hlowMid⟩ := List.nodup_append.mp hfront
  obtain ⟨hfrontSorted, _, hhighLast⟩ := List.pairwise_append.mp ht.sorted
  obtain ⟨_, _, hlowFirst⟩ := List.pairwise_append.mp hfrontSorted
  have hone : ∀ a ∈ scores, (volatilityShare normalize scores required a.1).1 = 1 ↔ (normalize a.1, a.2) ∈ low := by
    intro a ha
    rcases hscored a ha with ⟨hin, h⟩ | ⟨hin, h⟩ | ⟨hin, h⟩ <;> rw [h]
    · exact iff_of_true rfl hin
    · exact iff_of_false (by norm_num) fun hlow => hlowMid _ hlow _ hin rfl
    · exact iff_of_false (by norm_num) fun hlow => hapart _ (List.mem_append_left _ hlow) _ hin rfl
  have hhalf : ∀ a ∈ scores, (volatilityShare normalize scores required a.1).1 = 1 / 2 ↔ (normalize a.1, a.2) ∈ high := by
    intro a ha
    rcases hscored a ha with ⟨hin, h⟩ | ⟨hin, h⟩ | ⟨hin, h⟩ <;> rw [h]
    · exact iff_of_false (by norm_num) fun hhigh => hapart _ (List.mem_append_left _ hin) _ hhigh rfl
    · exact iff_of_false (by norm_num) fun hhigh => hapart _ (List.mem_append_right _ hin) _ hhigh rfl
    · exact iff_of_true rfl hin
  refine ⟨fun a ha => ?_, fun a ha b hb hab => ?_, ?_, fun x hx => ?_⟩
  · rcases hscored a ha with ⟨_, h⟩ | ⟨_, h⟩ | ⟨_, h⟩ <;> rw [h] <;> norm_num
  · rcases hscored a ha with ⟨hina, ha'⟩ | ⟨hina, ha'⟩ | ⟨hina, ha'⟩ <;>
      rcases hscored b hb with ⟨hinb, hb'⟩ | ⟨hinb, hb'⟩ | ⟨hinb, hb'⟩ <;> rw [ha', hb'] <;> norm_num
    · exact absurd (hlowFirst _ hinb _ hina) (not_le.mpr hab)
    · exact absurd (hhighLast _ (List.mem_append_left _ hinb) _ hina) (not_le.mpr hab)
    · exact absurd (hhighLast _ (List.mem_append_right _ hinb) _ hina) (not_le.mpr hab)
  · rw [countP_share hscores hlowNodup (fun y hy => ht.perm.subset (by simp [hy])) hone,
      countP_share hscores hhighNodup (fun y hy => ht.perm.subset (by simp [hy])) hhalf, ht.balanced]
  · have hout : ∀ part : List (String × ℚ), (∀ y ∈ part, y ∈ normalized normalize scores) → normalize x ∉ part.map Prod.fst := by
      intro part hpart h
      obtain ⟨y, hy, hname⟩ := List.mem_map.mp h
      exact hx (normalized_names normalize scores ▸ hname ▸ List.mem_map_of_mem (hpart y hy))
    rw [volatilityShare_eq ht hstable, if_neg (hout low fun y hy => ht.perm.subset (by simp [hy])),
      if_neg (hout mid fun y hy => ht.perm.subset (by simp [hy])), if_neg (hout high fun y hy => ht.perm.subset (by simp [hy]))]
    simp only [missing, List.mem_filter, decide_eq_true_eq]
    simp only [hx, not_false_eq_true, and_true]

theorem volatility_ranked_pair :
    (volatilityShare (normalizeSymbol fun _ => none) [("btcusdt", 1), ("ETH/USDT:USDT", 2)] ["SOL/USDT"] "ETH/USDT:USDT").1 ≤
      (volatilityShare (normalizeSymbol fun _ => none) [("btcusdt", 1), ("ETH/USDT:USDT", 2)] ["SOL/USDT"] "btcusdt").1 :=
  (volatility_ranked (by decide +kernel) (by decide +kernel)).2.1 ("btcusdt", 1) (by simp) ("ETH/USDT:USDT", 2) (by simp)
    one_lt_two

end TradingPlatform
