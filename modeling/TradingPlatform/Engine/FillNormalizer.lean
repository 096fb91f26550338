import TradingPlatform.Engine.Entry

/-!
# Normalized fills

`infrastructure/fill_normalizer.py`: one execution that the exchange confirmed, and the de-duplication of repeated observations.
What `__post_init__` checks is a field. Instants are natural numbers.
-/

namespace TradingPlatform

/-- `NormalizedFill`. -/
structure NormalizedFill where
  exchangeOrderId : String
  tradeId : String
  filledQuantity : ℚ
  fillPrice : ℚ
  fee : ℚ
  fillTimestamp : ℕ
  ids_nonempty : exchangeOrderId ≠ "" ∧ tradeId ≠ ""
  filledQuantity_pos : 0 < filledQuantity
  fillPrice_pos : 0 < fillPrice
  fee_nonneg : 0 ≤ fee

instance : DecidableEq NormalizedFill := fun a b =>
  decidable_of_iff (a.exchangeOrderId = b.exchangeOrderId ∧ a.tradeId = b.tradeId ∧ a.filledQuantity = b.filledQuantity ∧
      a.fillPrice = b.fillPrice ∧ a.fee = b.fee ∧ a.fillTimestamp = b.fillTimestamp)
    (by cases a; cases b; simp)

/-- The key of a fill: its order and its trade. -/
def NormalizedFill.key (f : NormalizedFill) : String × String := (f.exchangeOrderId, f.tradeId)

/-- `FillNormalizationError` of two observations of one trade. -/
def conflictingDuplicate (f : NormalizedFill) : PyError :=
  .valueError ("conflicting duplicate fill for " ++ f.exchangeOrderId ++ "/" ++ f.tradeId)

/-- One fill of the loop of `deduplicate_fills`. -/
def observeFill (unique : List NormalizedFill) (fill : NormalizedFill) : Except PyError (List NormalizedFill) :=
  match unique.find? fun f => decide (f.key = fill.key) with
  | some previous => if previous = fill then .ok unique else .error (conflictingDuplicate fill)
  | none => .ok (unique ++ [fill])

/-- The order of the sort: by instant, then by trade id. -/
def NormalizedFill.notAfter (f g : NormalizedFill) : Bool :=
  decide (f.fillTimestamp < g.fillTimestamp ∨ (f.fillTimestamp = g.fillTimestamp ∧ f.tradeId ≤ g.tradeId))

/-- `deduplicate_fills`. -/
def deduplicateFills (fills : List NormalizedFill) : Except PyError (List NormalizedFill) := do
  let unique ← fills.foldlM observeFill []
  return unique.mergeSort NormalizedFill.notAfter

/-- The receipt that `fetch_fills` makes of a fill. -/
def NormalizedFill.receipt (f : NormalizedFill) : ExchangeFillReceipt :=
  { exchangeOrderId := f.exchangeOrderId, tradeId := f.tradeId, filledQuantity := f.filledQuantity, fillPrice := f.fillPrice,
    fee := f.fee, fillTimestamp := f.fillTimestamp }

/-- The receipts of `fetch_fills`: the trades that the client returned are normalized one by one, a repeated one once. Any
failure is wrapped. -/
def fillReceipts (trades : List (Except PyError NormalizedFill)) : Except PyError (List ExchangeFillReceipt) :=
  let normalized := trades.foldlM (fun unique trade => trade >>= observeFill unique) []
  match normalized with
  | .error e => .error (.adapterUnavailable ("Cannot fetch fills: " ++ e.message))
  | .ok unique => .ok ((unique.mergeSort NormalizedFill.notAfter).map NormalizedFill.receipt)

end TradingPlatform
