import MarketSystem.Models
import Mathlib.Data.Nat.Log
import Mathlib.Data.Rat.Floor

/-!
# JSON encodings of the records

Every record crosses a process boundary as JSON (`utils.ToJSON`, `json.Marshal`) and is read
back with `json.Unmarshal`, either into a struct or into `interface{}`.  A record's encoding is
represented here by the value a reader decodes from it into `interface{}`: a `float64` field
comes back unchanged, because Go prints the shortest decimal that parses back to the same
`float64`, while an `int64` field comes back as the `float64` nearest to it.  The keys are the
`json` tags of `common/models`.
-/

namespace MarketSystem

/-- The `float64` nearest to an integer, ties to even: the integer itself below `2^53`, and
otherwise the integer rounded to a multiple of `2^(⌊log₂ |n|⌋ - 52)`. -/
def nearestFloat64 (n : Int) : Int :=
  let magnitude := n.natAbs
  if magnitude < 2 ^ 53 then n
  else
    let unit := 2 ^ (Nat.log 2 magnitude - 52)
    let quotient := magnitude / unit
    let remainder := magnitude % unit
    let rounded :=
      if unit < 2 * remainder ∨ (2 * remainder = unit ∧ quotient % 2 = 1) then quotient + 1
      else quotient
    n.sign * ((rounded * unit : Nat) : Int)

theorem nearestFloat64_of_lt {n : Int} (small : n.natAbs < 2 ^ 53) : nearestFloat64 n = n := by
  simp only [nearestFloat64, small, if_true]

/-- Go's conversion `int64(f)` of a `float64`, which truncates toward zero. -/
def truncToInt (x : ℚ) : Int :=
  if 0 ≤ x then ⌊x⌋ else ⌈x⌉

@[simp]
theorem truncToInt_intCast (n : Int) : truncToInt n = n := by
  by_cases nonneg : (0 : ℚ) ≤ n <;> simp [truncToInt, nonneg]

/-- Go's `int64(f)` on amd64: truncation toward zero, and the integer indefinite value `-2^63`
when the result does not fit. -/
def int64OfFloat (x : ℚ) : Int :=
  let truncated := truncToInt x
  if -2 ^ 63 ≤ truncated ∧ truncated < 2 ^ 63 then truncated else -2 ^ 63

/-- `int64` addition, which wraps around. -/
def wrapInt64 (n : Int) : Int :=
  (n + 2 ^ 63) % 2 ^ 64 - 2 ^ 63

/-- An `int64` field as a reader of `interface{}` sees it. -/
def intJson (n : Int) : Json :=
  .number (nearestFloat64 n)

def Ticker.toJson (t : Ticker) : Json :=
  .object [("symbol", .string t.symbol), ("last_price", .number t.lastPrice),
    ("bid_price", .number t.bidPrice), ("ask_price", .number t.askPrice),
    ("high_24h", .number t.high24h), ("low_24h", .number t.low24h),
    ("volume_24h", .number t.volume24h), ("timestamp", intJson t.timestamp)]

def Trade.toJson (t : Trade) : Json :=
  .object [("symbol", .string t.symbol), ("trade_id", .string t.tradeId),
    ("price", .number t.price), ("amount", .number t.amount), ("side", .string t.side),
    ("timestamp", intJson t.timestamp)]

def Kline.toJson (k : Kline) : Json :=
  .object [("symbol", .string k.symbol), ("interval", .string k.interval),
    ("open_time", intJson k.openTime), ("close_time", intJson k.closeTime),
    ("open", .number k.open_), ("high", .number k.high), ("low", .number k.low),
    ("close", .number k.close), ("volume", .number k.volume), ("quote_vol", .number k.quoteVol),
    ("trade_num", intJson k.tradeNum)]

def PriceLevel.toJson (level : PriceLevel) : Json :=
  .object [("price", .number level.price), ("amount", .number level.amount)]

/-- A `nil` slice prints as `null` and an empty one as `[]`; no reader in the pipeline tells
them apart, so both are written as an array. -/
def OrderBook.toJson (b : OrderBook) : Json :=
  .object [("symbol", .string b.symbol), ("bids", .array (b.bids.map PriceLevel.toJson)),
    ("asks", .array (b.asks.map PriceLevel.toJson)), ("timestamp", intJson b.timestamp)]

def PriceLevelWithSource.toJson (level : PriceLevelWithSource) : Json :=
  .object [("price", .number level.price), ("amount", .number level.amount),
    ("source", .string level.source)]

def OrderBookWithSource.toJson (b : OrderBookWithSource) : Json :=
  .object [("symbol", .string b.symbol),
    ("bids", .array (b.bids.map PriceLevelWithSource.toJson)),
    ("asks", .array (b.asks.map PriceLevelWithSource.toJson)),
    ("internal_bids_count", intJson b.internalBidsCount),
    ("external_bids_count", intJson b.externalBidsCount),
    ("internal_asks_count", intJson b.internalAsksCount),
    ("external_asks_count", intJson b.externalAsksCount),
    ("timestamp", intJson b.timestamp)]

def TickerWithSource.toJson (t : TickerWithSource) : Json :=
  .object [("symbol", .string t.symbol), ("last_price", .number t.lastPrice),
    ("last_price_source", .string t.lastPriceSource), ("bid_price", .number t.bidPrice),
    ("ask_price", .number t.askPrice), ("high_24h", .number t.high24h),
    ("low_24h", .number t.low24h), ("internal_volume_24h", .number t.internalVolume24h),
    ("external_volume_24h", .number t.externalVolume24h),
    ("total_volume_24h", .number t.totalVolume24h), ("timestamp", intJson t.timestamp)]

/-- The payload as decoded into `interface{}`; a pointer and a value encode alike. -/
def Payload.toJson : Payload → Json
  | .ticker t | .tickerValue t => t.toJson
  | .orderBook b => b.toJson
  | .trade t => t.toJson
  | .kline k => k.toJson
  | .tickerWithSource t => t.toJson
  | .orderBookWithSource b => b.toJson
  | .json v => v

/-- `json.Marshal` of a `MarketData` and `json.Unmarshal` back into `models.MarketData`: the
envelope fields are restored exactly and `Data` becomes the decoded `interface{}`. -/
def MarketData.roundTrip (d : MarketData) : MarketData :=
  { d with data := .json d.data.toJson }

end MarketSystem
