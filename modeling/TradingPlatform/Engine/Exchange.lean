import Mathlib.Algebra.Order.Ring.Rat
import TradingPlatform.Domain.ClientOrderId

/-!
# The exchange and the adapter

The exchange is the list of the orders it accepted. Its client is driven by a script that says, for each call, whether the
account writer fence refused it, the exchange refused it, no reply came (the order accepted or not), or the order was accepted
and answered. Over it stand the methods of `BinanceTestnetAdapter` (`infrastructure/binance_adapter.py`) that submit orders,
with their mapping of exceptions.
-/

namespace TradingPlatform

/-! ## The exchange -/

/-- The order types the adapter sends. -/
inductive OrderType where
  | market | stopMarket | takeProfitMarket
  deriving DecidableEq, Repr

/-- Where an accepted order stands. -/
inductive OrderStatus where
  | pending | filled | closed
  deriving DecidableEq, Repr

/-- The arguments of `create_order`. -/
structure OrderRequest where
  symbol : String
  type : OrderType
  side : String
  amount : ℚ
  newClientOrderId : String
  reduceOnly : Bool := false
  deriving DecidableEq

/-- An order the exchange accepted. -/
structure AcceptedOrder where
  exchangeOrderId : String
  request : OrderRequest
  status : OrderStatus := .pending
  deriving DecidableEq

/-- What happens to one call of the client. -/
inductive CallBehaviour where
  /-- The fence refuses: nothing is sent. -/
  | fenced (detail : String)
  /-- The client raises and the exchange took nothing. -/
  | refused (message : String)
  /-- The client raises without a reply; the exchange accepted under an id, or did not. -/
  | noReply (message : String) (accepted : Option String)
  /-- The call returns. A response may lack its `id` or its `status`. -/
  | answered (orderId : String) (hasId : Bool) (status : Option String)
  deriving DecidableEq, Repr

/-- The response of `create_order`: an entry that is missing is `none`. -/
structure OrderResponse where
  id : Option String
  status : Option String
  deriving DecidableEq, Repr

/-- `ExchangeOrderReceipt`. -/
structure ExchangeOrderReceipt where
  exchangeOrderId : String
  clientOrderId : String
  symbol : String
  side : String
  orderType : OrderType
  quantity : ℚ
  price : Option ℚ
  status : String
  deriving DecidableEq

/-- `ExchangeFillReceipt`. -/
structure ExchangeFillReceipt where
  exchangeOrderId : String
  tradeId : String
  filledQuantity : ℚ
  fillPrice : ℚ
  fee : ℚ
  fillTimestamp : ℕ
  deriving DecidableEq

/-- `ExchangePositionSnapshot`: an open position at the exchange. -/
structure ExchangePositionSnapshot where
  symbol : String
  direction : Direction
  quantity : ℚ
  markPrice : ℚ := 0
  deriving DecidableEq

/-- `ExchangeOrderSnapshot`: an open order at the exchange. -/
structure ExchangeOrderSnapshot where
  exchangeOrderId : String
  clientOrderId : Option String
  symbol : String
  deriving DecidableEq

/-- `AuthoritativeAccountSnapshot`. -/
structure AuthoritativeAccountSnapshot where
  equity : ℚ := 0
  positions : List ExchangePositionSnapshot := []
  pendingOrders : List ExchangeOrderSnapshot := []
  deriving DecidableEq

/-- The exchange with the script of its client. -/
structure Exchange where
  orders : List AcceptedOrder := []
  /-- Why the gateway cannot be initialised, if it cannot. -/
  gatewayError : Option String := none
  behaviour : ℕ → CallBehaviour
  calls : ℕ := 0
  /-- The confirmed trades of an order, or why they cannot be read. -/
  trades : String → Except String (List ExchangeFillReceipt) := fun _ => .ok []
  /-- What the exchange says of an order it is asked for by its id, or why it cannot be asked. -/
  orderStatus : String → Except String (Option ExchangeOrderReceipt) := fun _ => .ok none
  /-- The client has the endpoints of the conditional orders. -/
  algoOrders : Bool := true
  /-- The equity and the positions that each read of the account finds, or why it fails. -/
  accountReads : ℕ → Except String (ℚ × List ExchangePositionSnapshot) := fun _ => .ok (0, [])
  /-- Why a query of orders fails, if it does. -/
  queryFailure : ℕ → Option String := fun _ => none
  reads : ℕ := 0
  /-- The requests that were sent, in order. -/
  sent : List OrderRequest := []
  /-- The client ids of the requests that were sent and never answered. -/
  unanswered : List String := []

/-- The exchange after one more call. -/
def Exchange.tick (x : Exchange) : Exchange := { x with calls := x.calls + 1 }

/-- The exchange after a request was sent. -/
def Exchange.send (x : Exchange) (request : OrderRequest) : Exchange := { x.tick with sent := x.sent ++ [request] }

/-- The exchange after it accepted an order. -/
def Exchange.accept (x : Exchange) (orderId : String) (request : OrderRequest) : Exchange :=
  { x with orders := x.orders ++ [{ exchangeOrderId := orderId, request }] }

/-- `client.set_leverage` under the mutation guard. -/
def Exchange.setLeverage (x : Exchange) : Except PyError Unit × Exchange :=
  match x.behaviour x.calls with
  | .fenced detail => (.error (.accountWriterFence detail), x.tick)
  | .refused message => (.error (.clientError message), x.tick)
  | .noReply message _ => (.error (.clientError message), x.tick)
  | .answered _ _ _ => (.ok (), x.tick)

/-- `client.create_order` under the mutation guard. -/
def Exchange.createOrder (x : Exchange) (request : OrderRequest) : Except PyError OrderResponse × Exchange :=
  match x.behaviour x.calls with
  | .fenced detail => (.error (.accountWriterFence detail), x.tick)
  | .refused message => (.error (.clientError message), x.send request)
  | .noReply message none =>
    (.error (.clientError message), { x.send request with unanswered := x.unanswered ++ [request.newClientOrderId] })
  | .noReply message (some orderId) =>
    (.error (.clientError message),
      { (x.send request).accept orderId request with unanswered := x.unanswered ++ [request.newClientOrderId] })
  | .answered orderId hasId status =>
    (.ok { id := if hasId then some orderId else none, status }, (x.send request).accept orderId request)

/-- The exchange after an open order was closed. -/
def Exchange.closeOrder (x : Exchange) (exchangeOrderId : String) : Exchange :=
  { x with
    orders := x.orders.map fun a =>
      if a.exchangeOrderId = exchangeOrderId ∧ a.status = .pending then { a with status := .closed } else a }

/-- One cancellation under the mutation guard. A call without a reply may have closed the order. The response of the
conditional endpoint is read without its `id`. -/
def Exchange.cancelCall (x : Exchange) (exchangeOrderId : String) (conditional : Bool) : Except PyError Unit × Exchange :=
  match x.behaviour x.calls with
  | .fenced detail => (.error (.accountWriterFence detail), x.tick)
  | .refused message => (.error (.clientError message), x.tick)
  | .noReply message none => (.error (.clientError message), x.tick)
  | .noReply message (some _) => (.error (.clientError message), x.tick.closeOrder exchangeOrderId)
  | .answered _ hasId _ =>
    (if hasId || conditional then .ok () else .error (.keyError "id"), x.tick.closeOrder exchangeOrderId)

/-! ## The adapter -/

/-- The receipt read off a response. A missing entry raises `KeyError`. -/
def receiptOf (response : OrderResponse) (request : OrderRequest) (quantity : ℚ) (price : Option ℚ) :
    Except PyError ExchangeOrderReceipt :=
  match response.id, response.status with
  | some id, some status =>
    .ok { exchangeOrderId := id, clientOrderId := request.newClientOrderId, symbol := request.symbol, side := request.side,
          orderType := request.type, quantity, price, status }
  | none, _ => .error (.keyError "id")
  | _, none => .error (.keyError "status")

/-- The exception mapping all submissions share: a refusal of the fence passes, anything else becomes
`BinanceAdapterUnavailable`. -/
def wrapError (what : String) : PyError → PyError
  | .accountWriterFence detail => .accountWriterFence detail
  | e => .adapterUnavailable (what ++ e.message)

/-- One guarded `create_order` and the receipt of its response. -/
def submitOrder (x : Exchange) (request : OrderRequest) (price : Option ℚ) : Except PyError ExchangeOrderReceipt × Exchange :=
  match x.createOrder request with
  | (.error e, x) => (.error e, x)
  | (.ok response, x) => (receiptOf response request request.amount price, x)

/-- An accepted order as the snapshot shows it. -/
def AcceptedOrder.snapshot (a : AcceptedOrder) : ExchangeOrderSnapshot :=
  { exchangeOrderId := a.exchangeOrderId, clientOrderId := some a.request.newClientOrderId, symbol := a.request.symbol }

/-- The open orders, as the snapshot lists them. -/
def Exchange.pendingOrders (x : Exchange) : List ExchangeOrderSnapshot :=
  (x.orders.filter fun a => decide (a.status = .pending)).map AcceptedOrder.snapshot

/-- `fetch_authoritative_snapshot`: the account as this read finds it, with exactly the open orders. -/
def fetchAuthoritativeSnapshot (x : Exchange) : Except PyError AuthoritativeAccountSnapshot × Exchange :=
  match x.gatewayError with
  | some message => (.error (.adapterUnavailable message), x)
  | none =>
    match x.accountReads x.reads with
    | .error message =>
      (.error (.adapterUnavailable ("Cannot fetch account snapshot: " ++ message)), { x with reads := x.reads + 1 })
    | .ok (equity, positions) =>
      (.ok { equity, positions, pendingOrders := x.pendingOrders }, { x with reads := x.reads + 1 })

/-- `SubmitEntryToExchange`. -/
structure SubmitEntryToExchange where
  intentId : String
  quantity : ℚ
  leverage : ℤ
  clientOrderId : String

/-- The order of an entry command. -/
def SubmitEntryToExchange.request (command : SubmitEntryToExchange) (symbol side : String) : OrderRequest :=
  { symbol, type := .market, side, amount := command.quantity, newClientOrderId := command.clientOrderId }

/-- `submit_market_order`: the leverage first, then the order. -/
def submitMarketOrder (x : Exchange) (command : SubmitEntryToExchange) (symbol side : String) :
    Except PyError ExchangeOrderReceipt × Exchange :=
  match x.gatewayError with
  | some message => (.error (.adapterUnavailable message), x)
  | none =>
    match x.setLeverage with
    | (.error e, x) => (.error (wrapError "leverage configuration failed: " e), x)
    | (.ok _, x) =>
      match submitOrder x (command.request symbol side) none with
      | (.error (.adapterUnavailable m), x) => (.error (.adapterUnavailable m), x)
      | (.error e, x) => (.error (wrapError "Cannot submit market order: " e), x)
      | (.ok receipt, x) => (.ok receipt, x)

/-- `fetch_fills`: the confirmed trades of an order. -/
def fetchFills (x : Exchange) (exchangeOrderId : String) : Except PyError (List ExchangeFillReceipt) :=
  match x.gatewayError with
  | some message => .error (.adapterUnavailable message)
  | none =>
    match x.trades exchangeOrderId with
    | .error message => .error (.adapterUnavailable ("Cannot fetch fills: " ++ message))
    | .ok fills => .ok fills

/-- `SubmitReduceOnlyExit`. -/
structure SubmitReduceOnlyExit where
  positionId : String
  exitReason : String
  reduceQuantity : ℚ
  clientOrderId : String
  isEmergency : Bool := false

/-- `submit_reduce_only_exit`. -/
def submitReduceOnlyExit (x : Exchange) (command : SubmitReduceOnlyExit) (symbol side : String) :
    Except PyError ExchangeOrderReceipt × Exchange :=
  match x.gatewayError with
  | some message => (.error (.adapterUnavailable message), x)
  | none =>
    match submitOrder x { symbol, type := .market, side, amount := command.reduceQuantity,
                          newClientOrderId := command.clientOrderId, reduceOnly := true } none with
    | (.error e, x) => (.error (wrapError "Cannot submit reduce-only exit: " e), x)
    | (.ok receipt, x) => (.ok receipt, x)

/-- `SubmitProtectionOrders`. -/
structure SubmitProtectionOrders where
  positionId : String
  stopLossPrice : ℚ
  takeProfitPrice : Option ℚ
  stopClientOrderId : String
  tpClientOrderId : Option String
  deriving DecidableEq

/-- The target leg is sent only with a price that is not zero and a client id that is not empty. -/
def SubmitProtectionOrders.targetLeg (c : SubmitProtectionOrders) : Option (ℚ × String) :=
  match c.takeProfitPrice, c.tpClientOrderId with
  | some price, some id => if price = 0 ∨ id = "" then none else some (price, id)
  | _, _ => none

/-- The order of the stop leg. -/
def SubmitProtectionOrders.stopRequest (c : SubmitProtectionOrders) (symbol side : String) (quantity : ℚ) : OrderRequest :=
  { symbol, type := .stopMarket, side, amount := quantity, newClientOrderId := c.stopClientOrderId, reduceOnly := true }

/-- The order of the target leg. -/
def targetRequest (clientOrderId symbol side : String) (quantity : ℚ) : OrderRequest :=
  { symbol, type := .takeProfitMarket, side, amount := quantity, newClientOrderId := clientOrderId, reduceOnly := true }

/-- The two legs of `submit_protection`, before its exception mapping. -/
def submitProtectionLegs (x : Exchange) (command : SubmitProtectionOrders) (symbol side : String) (quantity : ℚ) :
    Except PyError (ExchangeOrderReceipt × Option ExchangeOrderReceipt) × Exchange :=
  match submitOrder x (command.stopRequest symbol side quantity) (some command.stopLossPrice) with
  | (.error e, x) => (.error e, x)
  | (.ok stopReceipt, x) =>
    match command.targetLeg with
    | none => (.ok (stopReceipt, none), x)
    | some (price, clientOrderId) =>
      match submitOrder x (targetRequest clientOrderId symbol side quantity) (some price) with
      | (.error e, x) => (.error e, x)
      | (.ok tpReceipt, x) => (.ok (stopReceipt, some tpReceipt), x)

/-- `submit_protection`: the stop, then the target if one is requested; one failure stands for both. -/
def submitProtection (x : Exchange) (command : SubmitProtectionOrders) (symbol side : String) (quantity : ℚ) :
    Except PyError (ExchangeOrderReceipt × Option ExchangeOrderReceipt) × Exchange :=
  match x.gatewayError with
  | some message => (.error (.adapterUnavailable message), x)
  | none =>
    match submitProtectionLegs x command symbol side quantity with
    | (.error e, x) => (.error (wrapError "Cannot submit protection: " e), x)
    | (.ok receipts, x) => (.ok receipts, x)

/-- `submit_stop_replacement`. -/
def submitStopReplacement (x : Exchange) (symbol side : String) (quantity stopPrice : ℚ) (clientOrderId : String) :
    Except PyError ExchangeOrderReceipt × Exchange :=
  match x.gatewayError with
  | some message => (.error (.adapterUnavailable message), x)
  | none =>
    match submitOrder x { symbol, type := .stopMarket, side, amount := quantity, newClientOrderId := clientOrderId,
                          reduceOnly := true } (some stopPrice) with
    | (.error e, x) => (.error (wrapError "Cannot submit replacement protection: " e), x)
    | (.ok receipt, x) => (.ok receipt, x)

/-- `_looks_like_binance_algo_order_id`. -/
def looksLikeBinanceAlgoOrderId (exchangeOrderId : String) : Bool :=
  decide (exchangeOrderId ≠ "") && exchangeOrderId.toList.all (·.isDigit) && decide (15 ≤ exchangeOrderId.length)

/-- `cancel_order`: a conditional order by its own endpoint, any other by the plain one and then by the conditional one. -/
def cancelOrder (x : Exchange) (exchangeOrderId : String) : Except PyError Unit × Exchange :=
  match x.gatewayError with
  | some message => (.error (.adapterUnavailable message), x)
  | none =>
    let conditional := looksLikeBinanceAlgoOrderId exchangeOrderId && x.algoOrders
    match x.cancelCall exchangeOrderId conditional with
    | (.ok _, x) => (.ok (), x)
    | (.error (.accountWriterFence detail), x) => (.error (.accountWriterFence detail), x)
    | (.error e, x) =>
      if conditional || !x.algoOrders then (.error (wrapError "Cannot cancel order: " e), x)
      else
        match x.cancelCall exchangeOrderId true with
        | (.ok _, x) => (.ok (), x)
        | (.error e, x) => (.error (wrapError "Cannot cancel order: " e), x)

/-- The receipt of an accepted order, as a query finds it. -/
def AcceptedOrder.receipt (a : AcceptedOrder) : ExchangeOrderReceipt :=
  { exchangeOrderId := a.exchangeOrderId, clientOrderId := a.request.newClientOrderId, symbol := a.request.symbol,
    side := a.request.side, orderType := a.request.type, quantity := a.request.amount, price := none,
    status := if a.status = .pending then "open" else "closed" }

/-- `query_order_by_client_id`: the open orders of the symbol, then its last hundred orders that are not open. -/
def queryOrderByClientId (x : Exchange) (symbol clientOrderId : String) :
    Except PyError (Option ExchangeOrderReceipt) × Exchange :=
  match x.gatewayError with
  | some message => (.error (.adapterUnavailable message), x)
  | none =>
    match x.queryFailure x.reads with
    | some message => (.error (.adapterUnavailable ("Cannot query order: " ++ message)), { x with reads := x.reads + 1 })
    | none =>
      let ofSymbol := x.orders.filter fun a => decide (a.request.symbol = symbol)
      let opened := ofSymbol.filter fun a => decide (a.status = .pending)
      let closed := (ofSymbol.filter fun a => decide (a.status ≠ .pending)).reverse.take 100
      (.ok (((opened ++ closed).find? fun a => decide (a.request.newClientOrderId = clientOrderId)).map AcceptedOrder.receipt),
        { x with reads := x.reads + 1 })

/-- `query_filled_order_by_id`. -/
def queryFilledOrderById (x : Exchange) (exchangeOrderId : String) : Except PyError (Option ExchangeOrderReceipt) :=
  match x.gatewayError with
  | some message => .error (.adapterUnavailable message)
  | none =>
    match x.orderStatus exchangeOrderId with
    | .error message => .error (.adapterUnavailable ("Cannot query order status: " ++ message))
    | .ok receipt => .ok (receipt.filter fun r => decide (r.exchangeOrderId = exchangeOrderId))

end TradingPlatform
