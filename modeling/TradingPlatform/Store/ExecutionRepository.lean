import TradingPlatform.Domain.ExecutionTruth
import TradingPlatform.Lib.Table

/-!
# The execution repository

The tables of mirrored orders, of fill receipts and of trade identities in `services/strategy_library/models.py`, with the
methods of `ExecutionRepository` that write them. A commit that violates a constraint leaves nothing of its transaction.
-/

namespace TradingPlatform

/-! ## The tables -/

/-- `exchange_fill_receipts`: a receipt with the order it belongs to. -/
structure FillReceiptRow where
  exchangeOrderRecordId : String
  receipt : CumulativeFillReceipt

/-- `exchange_trade_identities`. -/
structure TradeIdentityRow where
  receiptId : String
  exchangeAccount : String
  tradeId : String
  deriving DecidableEq

/-- The tables that `create_exchange_fill_receipt` reads and writes. -/
structure FillLedger where
  /-- The keys of `exchange_orders`. -/
  orderRecordIds : List String := []
  receipts : List FillReceiptRow := []
  identities : List TradeIdentityRow := []

/-! ## Fill receipts -/

/-- The columns of `uq_fill_receipt_cumulative_revision`. -/
def CumulativeFillReceipt.revision (r : CumulativeFillReceipt) : String × String × ℚ :=
  (r.exchangeAccount, r.exchangeOrderId, r.filledQuantity)

/-- The stored receipt of a cumulative revision. -/
def FillLedger.receiptOf (db : FillLedger) (revision : String × String × ℚ) : Option FillReceiptRow :=
  Table.get (fun row : FillReceiptRow => row.receipt.revision) db.receipts revision

/-- `_validate_fill_receipt_replay`. -/
def validateFillReceiptReplay (persisted replay : CumulativeFillReceipt) : Except PyError Unit :=
  if persisted.clientOrderId ≠ replay.clientOrderId ∨ persisted.symbol ≠ replay.symbol ∨ persisted.side ≠ replay.side ∨
      persisted.reduceOnly ≠ replay.reduceOnly ∨
      ¬((∀ t ∈ persisted.tradeIds, t ∈ replay.tradeIds) ∧ ∀ t ∈ replay.tradeIds, t ∈ persisted.tradeIds) then
    .error (.valueError "exchange fill receipt replay does not match the persisted immutable revision")
  else .ok ()

/-- A stored receipt is returned to a replay that matches it. -/
def replayReceipt (persisted : FillReceiptRow) (receipt : CumulativeFillReceipt) : Except PyError CumulativeFillReceipt :=
  match validateFillReceiptReplay persisted.receipt receipt with
  | .error e => .error e
  | .ok _ => .ok persisted.receipt

/-- The commit takes the rows: the receipt is new, and so is each of its trades for the account. -/
def FillLedger.Admits (db : FillLedger) (receipt : CumulativeFillReceipt) : Prop :=
  (∀ row ∈ db.receipts, row.receipt.receiptId ≠ receipt.receiptId) ∧
    (∀ row ∈ db.receipts, row.receipt.revision ≠ receipt.revision) ∧
    ∀ t ∈ receipt.tradeIds, ∀ i ∈ db.identities, ¬(i.exchangeAccount = receipt.exchangeAccount ∧ i.tradeId = t)

instance (db : FillLedger) (receipt : CumulativeFillReceipt) : Decidable (db.Admits receipt) :=
  inferInstanceAs (Decidable (_ ∧ _ ∧ _))

/-- The ledger with a receipt and its trade identities. -/
def FillLedger.insert (db : FillLedger) (exchangeOrderRecordId : String) (receipt : CumulativeFillReceipt) : FillLedger :=
  { db with
    receipts := db.receipts ++ [{ exchangeOrderRecordId, receipt }]
    identities := db.identities ++ receipt.tradeIds.map fun tradeId =>
      { receiptId := receipt.receiptId, exchangeAccount := receipt.exchangeAccount, tradeId } }

/-- `create_exchange_fill_receipt`. -/
def createExchangeFillReceipt (db : FillLedger) (exchangeOrderRecordId : String) (receipt : CumulativeFillReceipt) :
    Except PyError CumulativeFillReceipt × FillLedger :=
  if exchangeOrderRecordId ∉ db.orderRecordIds then (.error (.valueError "exchange order does not exist"), db)
  else
    match db.receiptOf receipt.revision with
    | some existing => (replayReceipt existing receipt, db)
    | none =>
      if db.Admits receipt then (.ok receipt, db.insert exchangeOrderRecordId receipt)
      else
        -- the rollback leaves the ledger, and the revision is looked up again
        match db.receiptOf receipt.revision with
        | some existing => (replayReceipt existing receipt, db)
        | none => (.error (.valueError "exchange fill receipt conflicts with an existing trade identity"), db)

end TradingPlatform
