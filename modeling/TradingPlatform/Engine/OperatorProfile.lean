import Mathlib.Data.Rat.Floor
import TradingPlatform.Lib.Lists

/-!
# The operator profile

`services/automated_trading/application/operator_profile.py` over `services/execution/risk_tiers.py`: the settings of a symbol
come from the profile of the operator, the tiers of its asset and the tiers of its volatility. Numbers are rational. What
`model_validate` refuses raises.
-/

namespace TradingPlatform

/-! ## Symbols -/

/-- The characters without `":USDT"`. -/
def withoutSettlement : List Char → List Char
  | ':' :: 'U' :: 'S' :: 'D' :: 'T' :: rest => withoutSettlement rest
  | c :: rest => c :: withoutSettlement rest
  | [] => []

/-- `canonical_market_symbol`. -/
def canonicalMarketSymbol (symbol : String) : String := String.ofList (withoutSettlement symbol.toList)

/-- `exchange_to_platform_symbol`, with the table of the fixed assets. -/
def exchangeToPlatformSymbol (table : String → Option String) (symbol : String) : String :=
  let raw := symbol.toList.map Char.toUpper
  if '/' ∈ raw then canonicalMarketSymbol (String.ofList raw)
  else (table (String.ofList raw)).getD
    (String.ofList (if "USDT".toList <:+ raw then raw.take (raw.length - 4) ++ "/USDT".toList else raw))

/-- `_normalize_symbol`. -/
def normalizeSymbol (table : String → Option String) (symbol : String) : String :=
  canonicalMarketSymbol (exchangeToPlatformSymbol table symbol)

/-! ## Tiers -/

/-- A payload of `AssetRiskTierSettings`. -/
structure AssetTierPayload where
  tier : Option String := none
  symbols : List String := []
  leverage : Option ℚ := none
  maxPositionFraction : Option ℚ := none
  riskPerTrade : Option ℚ := none
  maxLeverage : Option ℚ := none
  maxMarginFraction : Option ℚ := none

/-- `AssetRiskTierSettings`. -/
structure AssetRiskTierSettings where
  tier : String
  symbols : List String
  leverage : ℚ
  maxPositionFraction : ℚ
  riskPerTrade : Option ℚ
  maxLeverage : Option ℚ
  maxMarginFraction : Option ℚ

/-- `cap_directional_leverage`. -/
def capDirectionalLeverage (value : ℚ) : ℚ := max 1 (min 50 value)

/-- `cap_directional_position_fraction`. -/
def capDirectionalPositionFraction (value : ℚ) : ℚ := max (1 / 100) (min (5 / 2) value)

/-- The bounds of the optional fields of a tier. -/
def AssetTierPayload.valid (p : AssetTierPayload) : Bool :=
  p.riskPerTrade.all (fun r => decide (0 < r ∧ r ≤ 1 / 10)) && p.maxLeverage.all (fun l => decide (1 ≤ l ∧ l ≤ 125)) &&
    p.maxMarginFraction.all fun m => decide (0 < m ∧ m ≤ 1)

/-- The leverage of a payload, or its ceiling. -/
def AssetTierPayload.leverage' (p : AssetTierPayload) : Option ℚ := p.leverage.or p.maxLeverage

/-- The position fraction of a payload, or the one that its ceilings imply. -/
def AssetTierPayload.positionFraction (p : AssetTierPayload) : Option ℚ :=
  p.maxPositionFraction.or (p.maxMarginFraction.bind fun m => p.leverage'.map fun l => m * l)

/-- The tier of a payload that is complete. -/
def AssetTierPayload.settings (p : AssetTierPayload) (name : String) (leverage positionFraction : ℚ) : AssetRiskTierSettings where
  tier := p.tier.getD name
  symbols := p.symbols
  leverage := capDirectionalLeverage leverage
  maxPositionFraction := capDirectionalPositionFraction positionFraction
  riskPerTrade := p.riskPerTrade
  maxLeverage := p.maxLeverage
  maxMarginFraction := p.maxMarginFraction

/-- `VOLATILITY_TIER_NAMES`. -/
def volatilityTierNames : List String := ["vol_low", "vol_mid", "vol_high"]

/-- The loop of `resolve_asset_risk_tier`: the first tier that names the symbol, or the last one that is a fallback. -/
def resolveTier (normalize : String → String) (symbol : String) (fallback : Option AssetRiskTierSettings) :
    List (String × AssetTierPayload) → Option (Option AssetRiskTierSettings)
  | [] => some fallback
  | (name, p) :: rest =>
    match p.leverage', p.positionFraction with
    | some leverage, some positionFraction =>
      let tier := p.settings name leverage positionFraction
      if p.valid then
        if normalize symbol ∈ tier.symbols.map normalize then some (some tier)
        else resolveTier normalize symbol
          (if tier.tier = "standard" ∨ tier.tier = "vol_mid" ∨ tier.symbols = [] then some tier else fallback) rest
      else none
    | none, none =>
      -- a margin without a leverage raises
      if p.maxMarginFraction.isSome then none else resolveTier normalize symbol fallback rest
    | _, _ => resolveTier normalize symbol fallback rest

/-- `_has_dynamic_volatility_tiers`. -/
def hasDynamicVolatilityTiers (tiers : List (String × AssetTierPayload)) : Bool :=
  tiers.any fun t => decide (t.1 ∈ volatilityTierNames ∧ t.2.symbols ≠ [])

/-- The tiers that are looked at, in their order. -/
def lookupTiers (tiers : List (String × AssetTierPayload)) : List (String × AssetTierPayload) :=
  if hasDynamicVolatilityTiers tiers then volatilityTierNames.filterMap fun name => tiers.find? fun t => decide (t.1 = name)
  else
    let legacy := tiers.filter fun t => decide (t.1 ∉ volatilityTierNames)
    if legacy = [] then tiers else legacy

/-- The tier where none was found. -/
def defaultTier (tiers : List (String × AssetTierPayload)) : Option AssetRiskTierSettings :=
  if hasDynamicVolatilityTiers tiers then
    let mid := ((tiers.find? fun t => decide (t.1 = "vol_mid")).map Prod.snd).getD {}
    if mid.valid then some (mid.settings "vol_mid" (mid.leverage.getD 50) (mid.maxPositionFraction.getD (5 / 2))) else none
  else some (AssetTierPayload.settings {} "standard" 50 (5 / 2))

/-- `resolve_asset_risk_tier`, of tiers that are not empty. A key that begins with an underscore is no tier. -/
def resolveAssetRiskTier (normalize : String → String) (symbol : String) (tiers : List (String × AssetTierPayload)) :
    Option AssetRiskTierSettings :=
  let configured := tiers.filter fun t => !t.1.startsWith "_"
  (resolveTier normalize symbol none (lookupTiers configured)).bind fun found => found.or (defaultTier configured)

/-- `VolatilityRiskTierSettings`: the multiplier is in `(0, 1]`. -/
structure VolatilityRiskTierSettings where
  tier : String
  symbols : List String
  multiplier : ℚ
  noNewEntry : Bool
  multiplier_pos : 0 < multiplier
  multiplier_le : multiplier ≤ 1

/-- `resolve_volatility_adjustment`: the first tier that names the symbol. -/
def resolveVolatilityAdjustment (normalize : String → String) (symbol : String) (tiers : List VolatilityRiskTierSettings) :
    ℚ × Bool :=
  match tiers.find? fun t => decide (normalize symbol ∈ t.symbols.map normalize) with
  | some t => (min t.multiplier 1, t.noNewEntry)
  | none => (1, false)

/-- `classify_symbols_by_atr_pct`. -/
def classifySymbolsByAtrPct (normalize : String → String) (scores : List (String × ℚ)) :
    List String × List String × List String :=
  let ordered := (sortOn Prod.snd (scores.map fun x => (normalize x.1, x.2))).map Prod.fst
  let n := ordered.length
  let lowEnd := max 1 (n / 3)
  if n = 0 then ([], [], [])
  else if n = 1 then ([], ordered, [])
  else if n = 2 then (ordered.take 1, [], ordered.drop 1)
  else (ordered.take lowEnd, (ordered.take (n - lowEnd)).drop lowEnd, ordered.drop (n - lowEnd))

theorem three_quarters_pos : (0 : ℚ) < 3 / 4 := by norm_num
theorem three_quarters_le : (3 : ℚ) / 4 ≤ 1 := by norm_num
theorem half_is_pos : (0 : ℚ) < 1 / 2 := one_half_pos
theorem half_le : (1 : ℚ) / 2 ≤ 1 := one_half_lt_one.le
theorem quarter_pos : (0 : ℚ) < 1 / 4 := by norm_num
theorem quarter_le : (1 : ℚ) / 4 ≤ 1 := by norm_num

/-- `build_volatility_risk_tiers`. A required symbol that has no score is in the tier without entries. -/
def buildVolatilityRiskTiers (normalize : String → String) (scores : List (String × ℚ)) (required : List String) :
    List VolatilityRiskTierSettings :=
  let (low, mid, high) := classifySymbolsByAtrPct normalize scores
  let missing := (required.map normalize).filter fun x => decide (x ∉ scores.map fun s => normalize s.1)
  [⟨"low", low, 1, false, one_pos, le_rfl⟩, ⟨"mid", mid, 3 / 4, false, three_quarters_pos, three_quarters_le⟩,
    ⟨"high", high, 1 / 2, false, half_is_pos, half_le⟩, ⟨"shock", missing, 1 / 4, true, quarter_pos, quarter_le⟩]

/-! ## Settings -/

/-- The execution profile, as the API has checked it. -/
structure ExecutionProfile where
  assetRiskTiers : List (String × AssetTierPayload) := []
  volatilityRiskTiers : List VolatilityRiskTierSettings := []
  maxLeverage : Option ℚ := none
  maxSymbolExposure : Option ℚ := none
  orderNotionalUsdt : Option ℚ := none
  riskPerTrade : Option ℚ := none
  maxMarginFraction : Option ℚ := none
  maxOpenPositions : ℤ := 5
  maxTotalExposure : ℚ := 15 / 2
  simulationSamplingFallbackEnabled : Bool := false
  riskPerTrade_nonneg : ∀ r ∈ riskPerTrade, 0 ≤ r := by simp
  maxMarginFraction_nonneg : ∀ m ∈ maxMarginFraction, 0 ≤ m := by simp

/-- `V2ExecutionSettings`. -/
structure V2ExecutionSettings where
  riskPerTrade : ℚ
  maxLeverage : ℤ
  maxMarginFraction : ℚ
  orderNotionalUsdt : Option ℚ
  maxPositionFraction : ℚ
  maxOpenPositions : ℤ
  maxTotalExposure : ℚ
  samplingFallbackEnabled : Bool
  volatilityMultiplier : ℚ := 1
  volatilityNoNewEntry : Bool := false
  tierRecommendedLeverage : ℤ

/-- A ceiling that may be absent. -/
def tightened (value : ℚ) (ceiling : Option ℚ) : ℚ := ceiling.elim value (min value)

/-- The limits before the volatility: risk, leverage, margin and position. -/
structure Envelope where
  riskPerTrade : ℚ
  leverage : ℚ
  maxMarginFraction : ℚ
  maxPositionFraction : ℚ

/-- The limits of the profile alone. -/
def ExecutionProfile.envelope (p : ExecutionProfile) : Envelope where
  riskPerTrade := p.riskPerTrade.getD (1 / 10)
  leverage := capDirectionalLeverage (p.maxLeverage.getD 30)
  maxMarginFraction := min (p.maxMarginFraction.getD (1 / 20)) (1 / 20)
  maxPositionFraction := capDirectionalPositionFraction (p.maxSymbolExposure.getD (3 / 2))

/-- The limits under a tier: its leverage stands unless the profile names one. -/
def ExecutionProfile.tierEnvelope (p : ExecutionProfile) (tier : AssetRiskTierSettings) : Envelope where
  riskPerTrade := tightened p.envelope.riskPerTrade tier.riskPerTrade
  leverage := tightened (tightened tier.leverage (p.maxLeverage.map capDirectionalLeverage))
    (tier.maxLeverage.map capDirectionalLeverage)
  maxMarginFraction := tightened p.envelope.maxMarginFraction tier.maxMarginFraction
  maxPositionFraction := min tier.maxPositionFraction p.envelope.maxPositionFraction

/-- The settings of limits that a volatility scales down. -/
def ExecutionProfile.settings (p : ExecutionProfile) (e : Envelope) (adjustment : ℚ × Bool) : V2ExecutionSettings where
  riskPerTrade := if adjustment.1 < 1 then e.riskPerTrade * adjustment.1 else e.riskPerTrade
  maxLeverage := if adjustment.1 < 1 then max 1 ⌊e.leverage * adjustment.1⌋ else ⌊e.leverage⌋
  maxMarginFraction := if adjustment.1 < 1 then e.maxMarginFraction * adjustment.1 else e.maxMarginFraction
  orderNotionalUsdt := p.orderNotionalUsdt
  maxPositionFraction := if adjustment.1 < 1 then e.maxPositionFraction * adjustment.1 else e.maxPositionFraction
  maxOpenPositions := p.maxOpenPositions
  maxTotalExposure := p.maxTotalExposure
  samplingFallbackEnabled := p.simulationSamplingFallbackEnabled
  volatilityMultiplier := adjustment.1
  volatilityNoNewEntry := adjustment.2
  tierRecommendedLeverage := ⌊e.leverage⌋

/-- `resolve_v2_execution_settings`. -/
def resolveV2ExecutionSettings (normalize : String → String) (symbol : String) (p : ExecutionProfile) :
    Option V2ExecutionSettings :=
  let adjustment := resolveVolatilityAdjustment normalize symbol p.volatilityRiskTiers
  if p.assetRiskTiers = [] then some (p.settings p.envelope adjustment)
  else (resolveAssetRiskTier normalize symbol p.assetRiskTiers).map fun tier => p.settings (p.tierEnvelope tier) adjustment

end TradingPlatform
