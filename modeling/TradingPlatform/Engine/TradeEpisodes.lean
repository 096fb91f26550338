import Mathlib.Algebra.Order.Ring.Rat
import Mathlib.Data.Prod.Lex
import Mathlib.Data.String.Basic
import TradingPlatform.Domain.State
import TradingPlatform.Lib.Lists

/-!
# Trade episodes

`build_trade_episodes` of `services/automated_trading/audit/trading_audit.py`: the fills of an account, in the order of their
times, become the lifecycles of its positions. Decimals are rational and instants are microseconds; the context of a local
decision, which an episode only carries, is left out.
-/

namespace TradingPlatform

/-- The side of a trade. -/
inductive TradeSide where
  | buy | sell
  deriving DecidableEq, Repr

/-- What `_trade_record` makes of a receipt: it raises unless the quantity and the price are positive. -/
structure TradeRecord where
  tradeId : String
  orderId : String
  symbol : String
  side : TradeSide
  quantity : ℚ
  price : ℚ
  commission : ℚ
  realizedPnl : ℚ
  time : ℤ
  quantity_pos : 0 < quantity
  price_pos : 0 < price

/-- The quantity with the sign of its side. -/
def TradeRecord.signed (r : TradeRecord) : ℚ :=
  match r.side with
  | .buy => r.quantity
  | .sell => -r.quantity

/-- The key that fills are sorted by. -/
def TradeRecord.sortKey (r : TradeRecord) : ℤ ×ₗ String := toLex (r.time, r.tradeId)

/-- A fill as an episode holds it: the trade, and the quantity and the commission that it counts with. -/
structure EpisodeFill where
  tradeId : String
  quantity : ℚ
  commission : ℚ

/-- `TradeEpisode`. -/
structure TradeEpisode where
  episodeId : String
  symbol : String
  direction : Direction
  entryTime : ℤ
  entryPrice : ℚ
  entryQuantity : ℚ
  fills : List EpisodeFill := []
  exitTime : Option ℤ := none
  exitPrice : Option ℚ := none
  exitQuantity : ℚ := 0
  realizedPnl : ℚ := 0
  commission : ℚ := 0
  funding : ℚ := 0
  exitReason : String := "UNKNOWN"

/-- A number with four digits at least. -/
def fourDigits (n : ℕ) : String := String.ofList (List.replicate (4 - (toString n).length) '0') ++ toString n

/-- `open_episode`, under a number. A residual of a reversal comes without its commission. -/
def openEpisode (counter : ℕ) (r : TradeRecord) (signed commission : ℚ) : TradeEpisode where
  episodeId := r.symbol.replace "/" "-" ++ "-" ++ fourDigits counter
  symbol := r.symbol
  direction := if 0 < signed then .long else .short
  entryTime := r.time
  entryPrice := r.price
  entryQuantity := |signed|
  fills := [⟨r.tradeId, |signed|, commission⟩]
  commission := commission

/-- A fill in the direction of the position. -/
def TradeEpisode.grow (e : TradeEpisode) (net : ℚ) (r : TradeRecord) : TradeEpisode :=
  { e with
    entryPrice := (e.entryPrice * |net| + r.price * |r.signed|) / (|net| + |r.signed|)
    entryQuantity := e.entryQuantity + |r.signed|
    commission := e.commission + r.commission
    fills := e.fills ++ [⟨r.tradeId, r.quantity, r.commission⟩] }

/-- A fill against the position. -/
def TradeEpisode.reduce (e : TradeEpisode) (net : ℚ) (r : TradeRecord) : TradeEpisode :=
  { e with
    exitQuantity := e.exitQuantity + min |net| |r.signed|
    exitPrice := some r.price
    realizedPnl := e.realizedPnl + r.realizedPnl
    commission := e.commission + r.commission
    fills := e.fills ++ [⟨r.tradeId, r.quantity, r.commission⟩] }

/-- The end of an episode. -/
def TradeEpisode.finish (e : TradeEpisode) (time : ℤ) (exitReason : String) : TradeEpisode :=
  { e with exitTime := some time, exitReason }

/-- What a fill makes of the open episode of its symbol: the open one afterwards, and the one that is complete. -/
def advanceEpisode (exitReasonByOrder : String → Option String) (counter : ℕ) (r : TradeRecord) :
    Option (TradeEpisode × ℚ) → Option (TradeEpisode × ℚ) × Option TradeEpisode
  | none => (some (openEpisode counter r r.signed r.commission, r.signed), none)
  | some (e, net) =>
    if (0 < net ∧ 0 < r.signed) ∨ (net < 0 ∧ r.signed < 0) then (some (e.grow net r, net + r.signed), none)
    else if net + r.signed = 0 then
      (none, some ((e.reduce net r).finish r.time ((exitReasonByOrder r.orderId).getD "UNKNOWN")))
    else if (0 < net ↔ 0 < net + r.signed) then (some (e.reduce net r, net + r.signed), none)
    else (some (openEpisode counter r (net + r.signed) 0, net + r.signed),
      some ((e.reduce net r).finish r.time ((exitReasonByOrder r.orderId).getD "REVERSAL")))

/-- The variables of the loop. -/
structure EpisodeBook where
  openBySymbol : List (String × TradeEpisode × ℚ) := []
  complete : List TradeEpisode := []
  counter : ℕ := 0

/-- The open episode of a symbol, with its net quantity. -/
def EpisodeBook.current (b : EpisodeBook) (symbol : String) : Option (TradeEpisode × ℚ) :=
  (b.openBySymbol.find? fun x => decide (x.1 = symbol)).map Prod.snd

/-- The open episodes with those of a symbol replaced. -/
@[grind =] def putOpen (openBySymbol : List (String × TradeEpisode × ℚ)) (symbol : String) :
    Option (TradeEpisode × ℚ) → List (String × TradeEpisode × ℚ)
  | none => openBySymbol.filter fun x => decide (x.1 ≠ symbol)
  | some v =>
    if openBySymbol.any fun x => decide (x.1 = symbol) then openBySymbol.map fun x => if x.1 = symbol then (symbol, v) else x
    else openBySymbol ++ [(symbol, v)]

/-- The loop, for one fill. A new episode has the next number. -/
def EpisodeBook.step (exitReasonByOrder : String → Option String) (b : EpisodeBook) (r : TradeRecord) : EpisodeBook :=
  let (cur, done) := advanceEpisode exitReasonByOrder (b.counter + 1) r (b.current r.symbol)
  { openBySymbol := putOpen b.openBySymbol r.symbol cur
    complete := b.complete ++ done.toList
    counter := if (b.current r.symbol).isNone || (done.isSome && cur.isSome) then b.counter + 1 else b.counter }

/-- The book after fills. -/
def EpisodeBook.run (exitReasonByOrder : String → Option String) (records : List TradeRecord) : EpisodeBook :=
  records.foldl (EpisodeBook.step exitReasonByOrder) {}

/-- The episodes of a book. -/
def EpisodeBook.episodes (b : EpisodeBook) : List TradeEpisode := b.complete ++ b.openBySymbol.map fun x => x.2.1

/-- A funding payment. -/
structure FundingRow where
  symbol : String
  time : ℤ
  income : ℚ

/-- The payment falls into an episode, by the clock of the audit. -/
def TradeEpisode.covers (e : TradeEpisode) (now when_ : ℤ) : Bool :=
  decide (e.entryTime ≤ when_ ∧ when_ ≤ e.exitTime.getD now)

/-- The funding of an episode. -/
def TradeEpisode.addFunding (funding : List FundingRow) (now : ℤ) (e : TradeEpisode) : TradeEpisode :=
  { e with
    funding := (funding.filter fun row => decide (row.symbol = e.symbol) && e.covers now row.time).foldl
      (fun total row => total + row.income) e.funding }

/-- `build_trade_episodes`. -/
def buildTradeEpisodes (exitReasonByOrder : String → Option String) (now : ℤ) (funding : List FundingRow)
    (trades : List TradeRecord) : List TradeEpisode :=
  sortOn (fun e : TradeEpisode => (toLex (e.entryTime, e.episodeId) : ℤ ×ₗ String))
    ((EpisodeBook.run exitReasonByOrder (sortOn TradeRecord.sortKey trades)).episodes.map
      (TradeEpisode.addFunding (sortOn FundingRow.time funding) now))

end TradingPlatform
