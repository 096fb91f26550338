import Mathlib.Data.Rat.Floor
import TradingPlatform.Lib.Grid
import TradingPlatform.Lib.Table
import TradingPlatform.Domain.State

/-!
# The tables

`infrastructure/models.py`: the rows the engine persists and the constraints the database checks. An insertion that violates a
constraint raises `IntegrityError` and its transaction is rolled back. A column `Numeric(20, 4)` holds four decimals: what is
written to it is rounded, and the constraints check what is left (PostgreSQL; SQLite rounds when it reads). The columns with 8 and
18 decimals, the scale of the quantities and fees of the exchange, are taken as exact. Instants, foreign keys and the columns
nothing reads (aggregate caches) are left out.
-/

namespace TradingPlatform

/-! ## Rows -/

/-- What a numeric column of a scale holds of a value: a tie is rounded away from zero. -/
def numeric (scale : ℕ) (value : ℚ) : ℚ := Grid.nearest (1 / 10 ^ scale) value

/-- The unit of a scale. -/
theorem scale_pos (scale : ℕ) : 0 < (1 / 10 ^ scale : ℚ) := by positivity

theorem numeric_numeric (scale : ℕ) (x : ℚ) : numeric scale (numeric scale x) = numeric scale x :=
  Grid.nearest_nearest (scale_pos scale)

theorem numeric_mono (scale : ℕ) {x y : ℚ} (h : x ≤ y) : numeric scale x ≤ numeric scale y :=
  Grid.nearest_mono (scale_pos scale) h

/-- A column holds the values of its scale as they are, and no others. -/
theorem numeric_eq_self_iff (scale : ℕ) (x : ℚ) : numeric scale x = x ↔ Grid.OnGrid (1 / 10 ^ scale) x :=
  ⟨fun h => h ▸ Grid.onGrid_nearest, Grid.nearest_of_onGrid (scale_pos scale)⟩

/-- `V2ExecutionCycle`. -/
structure CycleRow where
  cycleId : String
  fencingToken : String
  deriving DecidableEq, Repr

/-- `V2ExecutionIntent`. -/
structure IntentRow where
  intentId : String
  cycleId : String
  decisionId : Option String
  symbol : String
  direction : Direction
  candidateKey : String
  candidateType : V2CandidateType
  executionMode : V2ExecutionMode
  initialRiskUsdt : Option ℚ
  state : V2IntentState
  version : ℕ := 0
  deriving DecidableEq

/-- `V2ExchangeOrder`. -/
structure OrderRow where
  orderRecordId : String
  intentId : String
  clientOrderId : String
  exchangeOrderId : Option String := none
  quantity : ℚ
  leverage : ℤ
  deriving DecidableEq

/-- `V2ExchangeFill`. -/
structure FillRow where
  fillId : String
  intentId : String
  exchangeOrderRecordId : String
  accountId : String
  exchangeOrderId : String
  tradeId : Option String
  fillSource : String := "BINANCE_USER_TRADE"
  symbol : String
  side : String
  reduceOnly : Bool
  filledQuantity : ℚ
  fillPrice : ℚ
  commission : Option ℚ
  deriving DecidableEq

/-- `V2ManagedPosition`: `entry_price` and `realized_pnl` have four decimals. -/
structure PositionRow where
  positionId : String
  intentId : String
  orderRecordId : String
  symbol : String
  direction : Direction
  executionMode : V2ExecutionMode
  quantity : ℚ
  entryPrice : ℚ
  entryFee : ℚ
  state : V2PositionState
  version : ℕ := 0
  realizedPnl : Option ℚ := none
  deriving DecidableEq

/-- The position as the table holds it. -/
def PositionRow.stored (p : PositionRow) : PositionRow :=
  { p with entryPrice := numeric 4 p.entryPrice, realizedPnl := p.realizedPnl.map (numeric 4) }

/-- `V2ProtectionRecord`: the three prices have four decimals. -/
structure ProtectionRow where
  protectionId : String
  positionId : String
  stopLossPrice : ℚ
  originalStopLossPrice : Option ℚ
  takeProfitPrice : Option ℚ
  stopClientOrderId : String
  tpClientOrderId : Option String
  stopExchangeOrderId : Option String := none
  tpExchangeOrderId : Option String := none
  state : V2ProtectionState
  version : ℕ := 0
  policy : String := "P1"
  deriving DecidableEq

/-- The protection as the table holds it. -/
def ProtectionRow.stored (p : ProtectionRow) : ProtectionRow :=
  { p with stopLossPrice := numeric 4 p.stopLossPrice, originalStopLossPrice := p.originalStopLossPrice.map (numeric 4)
           takeProfitPrice := p.takeProfitPrice.map (numeric 4) }

/-- A value of an event payload that is a text or a number. -/
inductive PayloadValue where
  | text (value : String)
  | number (value : ℕ)
  deriving DecidableEq, Repr

/-- `V2ExecutionEvent`: what happened to which aggregate. The payload is a dictionary: the first entry of a key counts. -/
structure EventRow where
  aggregateId : String
  aggregateType : String
  eventType : String
  eventPayload : List (String × PayloadValue) := []
  deriving DecidableEq, Repr

/-- `V2AdjudicationFinalization`. -/
structure FinalizationRow where
  adjudicationId : String
  manifestHash : String
  evidenceHash : String
  databaseIdentity : String
  positionId : String
  exchangeOrderId : String
  exchangeTradeId : String
  aggregateQuantity : ℚ
  allocatedQuantity : ℚ
  deriving DecidableEq

/-- `V2ExecutionIncident`. -/
structure IncidentRow where
  incidentType : String
  relatedAggregateId : Option String := none
  intentId : Option String := none
  positionId : Option String := none
  deriving DecidableEq, Repr

/-- The tables, and the source of `uuid4` ids. -/
structure Database where
  cycles : List CycleRow := []
  decisions : List String := []
  intents : List IntentRow := []
  orders : List OrderRow := []
  fills : List FillRow := []
  positions : List PositionRow := []
  protections : List ProtectionRow := []
  events : List EventRow := []
  incidents : List IncidentRow := []
  finalizations : List FinalizationRow := []
  /-- `entry_enabled` of the global runtime control, if the row exists. -/
  entryEnabled : Option Bool := none
  uuids : ℕ → String := fun n => "uuid-" ++ toString n
  drawn : ℕ := 0

/-- `str(uuid.uuid4())`. -/
def Database.uuid4 (db : Database) : String × Database := (db.uuids db.drawn, { db with drawn := db.drawn + 1 })

/-! ## Reading -/

/-- `session.get(V2ExecutionIntent, id)`. -/
def Database.intent (db : Database) (id : String) : Option IntentRow := Table.get IntentRow.intentId db.intents id

/-- `session.get(V2ExchangeOrder, id)`. -/
def Database.order (db : Database) (id : String) : Option OrderRow := Table.get OrderRow.orderRecordId db.orders id

/-- The order of an intent. -/
def Database.orderOfIntent (db : Database) (intentId : String) : Option OrderRow :=
  Table.get OrderRow.intentId db.orders intentId

/-- The order of a client id. -/
def Database.orderOfClientId (db : Database) (clientOrderId : String) : Option OrderRow :=
  Table.get OrderRow.clientOrderId db.orders clientOrderId

/-- `session.get(V2ManagedPosition, id)`. -/
def Database.position (db : Database) (id : String) : Option PositionRow := Table.get PositionRow.positionId db.positions id

/-- `session.get(V2ProtectionRecord, id)`. -/
def Database.protection (db : Database) (id : String) : Option ProtectionRow :=
  Table.get ProtectionRow.protectionId db.protections id

/-- The fills of an order record. -/
def Database.fillsOfOrder (db : Database) (orderRecordId : String) : List FillRow :=
  db.fills.filter fun f => decide (f.exchangeOrderRecordId = orderRecordId)

/-- The protections of a position, oldest first. -/
def Database.protectionsOf (db : Database) (positionId : String) : List ProtectionRow :=
  db.protections.filter fun p => decide (p.positionId = positionId)

/-! ## Writing -/

/-- A constraint of the database. -/
def require (holds : Bool) (name : String) : Except PyError Unit :=
  if holds then .ok () else .error (.integrityError name)

/-- A position that is neither closed nor quarantined. -/
def PositionRow.isOpen (p : PositionRow) : Bool := decide (p.state ≠ .closed ∧ p.state ≠ .quarantined)

/-- Two positions that `ix_v2_position_one_open_per_symbol_direction_mode` keeps apart. -/
def PositionRow.sameSlot (p q : PositionRow) : Bool :=
  decide (p.symbol = q.symbol ∧ p.direction = q.direction ∧ p.executionMode = q.executionMode)

/-- Insertion of a cycle. -/
def Database.insertCycle (db : Database) (row : CycleRow) : Except PyError Database := do
  require (db.cycles.all fun c => decide (c.cycleId ≠ row.cycleId)) "v2_execution_cycles.cycle_id"
  require (db.cycles.all fun c => decide (c.fencingToken ≠ row.fencingToken)) "v2_execution_cycles.fencing_token"
  return { db with cycles := db.cycles ++ [row] }

/-- Insertion of an intent. -/
def Database.insertIntent (db : Database) (row : IntentRow) : Except PyError Database := do
  require (db.intents.all fun r => decide (r.intentId ≠ row.intentId)) "v2_execution_intents.intent_id"
  return { db with intents := db.intents ++ [row] }

/-- Insertion of an order. -/
def Database.insertOrder (db : Database) (row : OrderRow) : Except PyError Database := do
  require (db.orders.all fun o => decide (o.orderRecordId ≠ row.orderRecordId)) "v2_exchange_orders.order_record_id"
  require (db.orders.all fun o => decide (o.clientOrderId ≠ row.clientOrderId)) "v2_exchange_orders.client_order_id"
  require (decide (0 < row.quantity)) "ck_v2_order_quantity_positive"
  require (decide (0 < row.leverage)) "ck_v2_order_leverage_positive"
  return { db with orders := db.orders ++ [row] }

/-- The exchange order id of an order is set. -/
def Database.setExchangeOrderId (db : Database) (orderRecordId exchangeOrderId : String) : Except PyError Database := do
  require (db.orders.all fun o => decide (o.orderRecordId = orderRecordId ∨ o.exchangeOrderId ≠ some exchangeOrderId))
    "v2_exchange_orders.exchange_order_id"
  return { db with
    orders := Table.modify OrderRow.orderRecordId db.orders orderRecordId
      fun o => { o with exchangeOrderId := some exchangeOrderId } }

/-- Insertion of a fill. Absent trade ids do not collide. -/
def Database.insertFill (db : Database) (row : FillRow) : Except PyError Database := do
  require (db.fills.all fun f => decide (f.fillId ≠ row.fillId)) "v2_exchange_fills.fill_id"
  require (db.fills.all fun f => decide (f.tradeId = none ∨ f.accountId ≠ row.accountId ∨ f.tradeId ≠ row.tradeId))
    "uq_v2_fill_account_trade"
  require (decide (0 < row.filledQuantity)) "ck_v2_fill_qty_positive"
  require (decide (0 < row.fillPrice)) "ck_v2_fill_price_positive"
  return { db with fills := db.fills ++ [row] }

/-- Insertion of a position. -/
def Database.insertPosition (db : Database) (row : PositionRow) : Except PyError Database := do
  require (db.positions.all fun p => decide (p.positionId ≠ row.positionId)) "v2_managed_positions.position_id"
  require (db.positions.all fun p => decide (p.intentId ≠ row.intentId)) "v2_managed_positions.intent_id"
  require (db.positions.all fun p => !(p.isOpen && row.isOpen && p.sameSlot row))
    "ix_v2_position_one_open_per_symbol_direction_mode"
  require (decide (0 < row.quantity)) "ck_v2_position_quantity_positive"
  require (decide (0 < row.stored.entryPrice)) "ck_v2_position_entry_price_positive"
  return { db with positions := db.positions ++ [row.stored] }

/-- Insertion of a protection. -/
def Database.insertProtection (db : Database) (row : ProtectionRow) : Except PyError Database := do
  require (db.protections.all fun p => decide (p.protectionId ≠ row.protectionId)) "v2_protection_records.protection_id"
  require (db.protections.all fun p => decide (p.stopClientOrderId ≠ row.stopClientOrderId))
    "v2_protection_records.stop_client_order_id"
  require (db.protections.all fun p => decide (p.tpClientOrderId = none ∨ p.tpClientOrderId ≠ row.tpClientOrderId))
    "v2_protection_records.tp_client_order_id"
  require (decide (0 < row.stored.stopLossPrice)) "ck_v2_protection_stop_price_positive"
  require (row.stored.takeProfitPrice.all fun t => decide (0 < t)) "ck_v2_protection_tp_price_positive"
  return { db with protections := db.protections ++ [row.stored] }

/-- Insertion of a finalization. -/
def Database.insertFinalization (db : Database) (row : FinalizationRow) : Except PyError Database := do
  require (db.finalizations.all fun f => decide (f.adjudicationId ≠ row.adjudicationId ∨
    f.databaseIdentity ≠ row.databaseIdentity ∨ f.positionId ≠ row.positionId)) "uq_v2_adjudication_finalization_participant"
  require (decide (0 < row.aggregateQuantity)) "ck_v2_adjudication_finalization_aggregate_positive"
  require (decide (0 < row.allocatedQuantity)) "ck_v2_adjudication_finalization_allocation_positive"
  return { db with finalizations := db.finalizations ++ [row] }

/-- The row of an intent is changed. -/
def Database.modifyIntent (db : Database) (id : String) (f : IntentRow → IntentRow) : Database :=
  { db with intents := Table.modify IntentRow.intentId db.intents id f }

theorem Database.intent_modifyIntent {db : Database} {id : String} {f : IntentRow → IntentRow}
    (hf : ∀ r, (f r).intentId = r.intentId) : (db.modifyIntent id f).intent id = (db.intent id).map f :=
  Table.get_modify_self hf

/-- The row of a position is changed. -/
def Database.modifyPosition (db : Database) (id : String) (f : PositionRow → PositionRow) : Database :=
  { db with positions := Table.modify PositionRow.positionId db.positions id f }

/-- The row of a protection is changed. -/
def Database.modifyProtection (db : Database) (id : String) (f : ProtectionRow → ProtectionRow) : Database :=
  { db with protections := Table.modify ProtectionRow.protectionId db.protections id f }

end TradingPlatform
