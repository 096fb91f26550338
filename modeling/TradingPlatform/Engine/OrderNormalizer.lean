import TradingPlatform.Engine.Exit

/-!
# The order normalizer

`services/execution/order_normalizer.py`: the conversion of a trade intent to the parameters of an exchange order. What the models
validate is a field of the structure. The digest of a text is a parameter, and an `OrderNormalizationError` is a `ValueError`.
-/

namespace TradingPlatform

/-- `PositionSide`. -/
inductive PositionSide where
  | long | short | flat
  deriving DecidableEq, Repr

/-- The text of a position side. -/
def PositionSide.value : PositionSide → String
  | .long => "LONG"
  | .short => "SHORT"
  | .flat => "FLAT"

/-- `TradeAction`. -/
inductive TradeAction where
  | openPosition | close | reduce
  deriving DecidableEq, Repr

/-- `ExchangeSide`. -/
inductive ExchangeSide where
  | buy | sell
  deriving DecidableEq, Repr

/-- `ProtectionPolicy`. -/
structure ProtectionPolicy where
  stopPrice : ℚ
  takeProfitPrice : Option ℚ := none
  workingType : String := "MARK_PRICE"
  stop_pos : 0 < stopPrice
  target_pos : ∀ t ∈ takeProfitPrice, 0 < t

instance : DecidableEq ProtectionPolicy := fun a b =>
  decidable_of_iff (a.stopPrice = b.stopPrice ∧ a.takeProfitPrice = b.takeProfitPrice ∧ a.workingType = b.workingType)
    (by cases a; cases b; simp)

/-- `TradeIntent`, what the normalizer reads of it. -/
structure TradeIntent where
  intentId : String
  symbol : String
  action : TradeAction
  positionSide : PositionSide
  exchangeSide : ExchangeSide
  targetQuantity : ℚ
  signalReferencePrice : ℚ
  protection : ProtectionPolicy
  quantity_pos : 0 < targetQuantity
  reference_pos : 0 < signalReferencePrice

instance : DecidableEq TradeIntent := fun a b =>
  decidable_of_iff (a.intentId = b.intentId ∧ a.symbol = b.symbol ∧ a.action = b.action ∧
      a.positionSide = b.positionSide ∧ a.exchangeSide = b.exchangeSide ∧ a.targetQuantity = b.targetQuantity ∧
      a.signalReferencePrice = b.signalReferencePrice ∧ a.protection = b.protection)
    (by cases a; cases b; simp)

/-- `MarketRulesSnapshot`, what the normalizer reads of it. -/
structure MarketRulesSnapshot where
  rulesSnapshotId : String
  symbol : String
  marketStatus : String
  positionMode : String
  marginMode : String
  tickSize : ℚ
  stepSize : ℚ
  minQuantity : ℚ
  maxQuantity : Option ℚ
  minNotional : ℚ
  maxNotional : Option ℚ
  marketActive : Bool
  tick_pos : 0 < tickSize
  step_pos : 0 < stepSize
  minQuantity_pos : 0 < minQuantity
  maxQuantity_pos : ∀ q ∈ maxQuantity, 0 < q
  minNotional_pos : 0 < minNotional
  maxNotional_pos : ∀ n ∈ maxNotional, 0 < n

instance : DecidableEq MarketRulesSnapshot := fun a b =>
  decidable_of_iff (a.rulesSnapshotId = b.rulesSnapshotId ∧ a.symbol = b.symbol ∧ a.marketStatus = b.marketStatus ∧
      a.positionMode = b.positionMode ∧ a.marginMode = b.marginMode ∧ a.tickSize = b.tickSize ∧ a.stepSize = b.stepSize ∧
      a.minQuantity = b.minQuantity ∧ a.maxQuantity = b.maxQuantity ∧ a.minNotional = b.minNotional ∧
      a.maxNotional = b.maxNotional ∧ a.marketActive = b.marketActive)
    (by cases a; cases b; simp)

/-- `NormalizedOrder`. -/
structure NormalizedOrder where
  intentId : String
  clientOrderId : String
  symbol : String
  side : ExchangeSide
  positionSide : String
  reduceOnly : Option Bool
  closePosition : Bool
  quantity : ℚ
  price : Option ℚ := none
  stopPrice : ℚ
  workingType : String
  timeInForce : String := "GTC"
  rulesSnapshot : MarketRulesSnapshot
  quantity_pos : 0 < quantity
  price_pos : ∀ p ∈ price, 0 < p
  stop_pos : 0 < stopPrice

instance : DecidableEq NormalizedOrder := fun a b =>
  decidable_of_iff (a.intentId = b.intentId ∧ a.clientOrderId = b.clientOrderId ∧ a.symbol = b.symbol ∧ a.side = b.side ∧
      a.positionSide = b.positionSide ∧ a.reduceOnly = b.reduceOnly ∧ a.closePosition = b.closePosition ∧
      a.quantity = b.quantity ∧ a.price = b.price ∧ a.stopPrice = b.stopPrice ∧ a.workingType = b.workingType ∧
      a.timeInForce = b.timeInForce ∧ a.rulesSnapshot = b.rulesSnapshot)
    (by cases a; cases b; simp)

/-- `_floor_to_increment`: down to a multiple, towards zero. -/
def floorToIncrement (value increment : ℚ) : ℚ := truncate (value / increment) * increment

/-- `_client_order_id`, from the hexadecimal digest. -/
def normalizedClientOrderId (hexdigest : String → String) (intentId : String) : String :=
  "aqrp-" ++ ((hexdigest intentId).take 24).toString

/-- `_expected_side`. -/
def expectedSide (action : TradeAction) (positionSide : PositionSide) : Except PyError ExchangeSide :=
  match positionSide with
  | .flat => .error (.valueError "FLAT is not an executable position side")
  | .long => .ok (if action = .openPosition then .buy else .sell)
  | .short => .ok (if action = .openPosition then .sell else .buy)

/-- The intent closes or reduces. -/
def TradeIntent.closing (intent : TradeIntent) : Bool := decide (intent.action = .close ∨ intent.action = .reduce)

/-- The quantity an order asks for: a close in hedge mode is capped by the confirmed position. -/
def TradeIntent.requestedQuantity (intent : TradeIntent) (rules : MarketRulesSnapshot) (confirmedPositionQuantity : Option ℚ) :
    Except PyError ℚ :=
  if rules.positionMode = "HEDGE" ∧ intent.closing = true then
    match confirmedPositionQuantity with
    | some confirmed =>
      if confirmed ≤ 0 then .error (.valueError "hedge-mode close requires confirmed position quantity")
      else .ok (min intent.targetQuantity confirmed)
    | none => .error (.valueError "hedge-mode close requires confirmed position quantity")
  else .ok intent.targetQuantity

/-- The constructor of `NormalizedOrder`, from the parts the normalizer computes. -/
def TradeIntent.normalizedOrder (intent : TradeIntent) (rules : MarketRulesSnapshot) (hexdigest : String → String)
    (quantity stopPrice : ℚ) : Except PyError NormalizedOrder :=
  if hquantity : 0 < quantity then
    if hstop : 0 < stopPrice then
      .ok
        { intentId := intent.intentId, clientOrderId := normalizedClientOrderId hexdigest intent.intentId, symbol := intent.symbol
          side := intent.exchangeSide
          positionSide := if rules.positionMode = "ONE_WAY" then "BOTH" else intent.positionSide.value
          reduceOnly := if rules.positionMode = "ONE_WAY" then some intent.closing else none
          closePosition := false, quantity, stopPrice, workingType := intent.protection.workingType, rulesSnapshot := rules
          quantity_pos := hquantity, price_pos := by simp, stop_pos := hstop }
    else .error (.valueError "stop_price")
  else .error (.valueError "quantity")

/-- `OrderNormalizer.normalize`. -/
def TradeIntent.normalize (intent : TradeIntent) (rules : MarketRulesSnapshot) (hexdigest : String → String)
    (confirmedPositionQuantity : Option ℚ) : Except PyError NormalizedOrder := do
  if intent.symbol ≠ rules.symbol then throw (.valueError "intent symbol does not match market rules snapshot")
  if rules.marketStatus ≠ "TRADING" then throw (.valueError "market status is not executable")
  if rules.marketActive = false then throw (.valueError "market is not active")
  if rules.marginMode ∉ ["CROSS", "ISOLATED"] then throw (.valueError "margin mode is unknown")
  if rules.positionMode ∉ ["ONE_WAY", "HEDGE"] then throw (.valueError "position mode is unknown")
  let side ← expectedSide intent.action intent.positionSide
  if intent.exchangeSide ≠ side then throw (.valueError "exchange side conflicts with action and position side")
  let requestedQuantity ← intent.requestedQuantity rules confirmedPositionQuantity
  let quantity := floorToIncrement requestedQuantity rules.stepSize
  if quantity < rules.minQuantity then throw (.valueError "normalized quantity is below exchange minimum")
  if ∃ maximum ∈ rules.maxQuantity, maximum < quantity then throw (.valueError "normalized quantity exceeds exchange maximum")
  let notional := quantity * intent.signalReferencePrice
  if notional < rules.minNotional then throw (.valueError "normalized notional is below exchange minimum")
  if ∃ maximum ∈ rules.maxNotional, maximum < notional then throw (.valueError "normalized notional exceeds exchange maximum")
  intent.normalizedOrder rules hexdigest quantity (floorToIncrement intent.protection.stopPrice rules.tickSize)

end TradingPlatform
