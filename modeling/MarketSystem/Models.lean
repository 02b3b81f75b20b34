import Mathlib.Data.Rat.Defs

/-!
# The market data model

The records that travel through the pipeline (`common/models`), the string constants that
tag them (`common/constants`), and Go's dynamically typed `interface{}` payload.  A `float64`
of the source is taken as an exact rational and an `int64` as an integer; where a result
depends on the rounding of a `float64`, the module that needs it says so explicitly.
-/

namespace MarketSystem

/-! ## Constants -/

def dataTypeTicker : String := "ticker"
def dataTypeDepth : String := "depth"
def dataTypeTrade : String := "trade"
def dataTypeKline : String := "kline"

def exchangeBinance : String := "binance"
def exchangeOKX : String := "okx"
def exchangeInternal : String := "internal"

def sideBuy : String := "buy"
def sideSell : String := "sell"

def sourceInternal : String := "internal"
def sourceExternal : String := "external"
def sourceMerged : String := "merged"

def modeInternalOnly : String := "INTERNAL_ONLY"
def modeExternalOnly : String := "EXTERNAL_ONLY"
def modeHybrid : String := "HYBRID"

def mergeStrategyPriority : String := "priority"
def mergeStrategySupplement : String := "supplement"

/-- `RedisChannelMarket`, the prefix of every pub/sub channel. -/
def redisChannelMarket : String := "market:"

/-- `MaxSubscriptionsPerConn`. -/
def maxSubscriptionsPerConn : Nat := 20

/-- `DataFreshnessThreshold`, in milliseconds. -/
def dataFreshnessThreshold : Int := 5000

/-! ## Decoded JSON

`encoding/json` decodes into `interface{}` as `nil`, `bool`, `float64`, `string`,
`[]interface{}` and `map[string]interface{}`.  An object keeps one entry per key. -/

inductive Json where
  | null
  | bool (b : Bool)
  | number (x : ℚ)
  | string (s : String)
  | array (items : List Json)
  | object (fields : List (String × Json))
  deriving Repr, Inhabited

namespace Json

/-- `m[key]` on a decoded object; `none` plays the role of Go's missing key (a `nil`
interface). -/
def field : Json → String → Option Json
  | .object fields, key => (fields.find? (·.1 == key)).map (·.2)
  | _, _ => none

/-- The type assertion `v.(string)`. -/
def asString : Option Json → Option String
  | some (.string s) => some s
  | _ => none

/-- The type assertion `v.(float64)`. -/
def asNumber : Option Json → Option ℚ
  | some (.number x) => some x
  | _ => none

/-- The type assertion `v.(map[string]interface{})`. -/
def asObject : Option Json → Option Json
  | some (.object fields) => some (.object fields)
  | _ => none

/-- The type assertion `v.([]interface{})`. -/
def asArray : Option Json → Option (List Json)
  | some (.array items) => some items
  | _ => none

/-- The type assertion `v.(bool)`. -/
def asBool : Option Json → Option Bool
  | some (.bool b) => some b
  | _ => none

end Json

/-! ## Records -/

/-- `models.Ticker`. -/
structure Ticker where
  symbol : String
  lastPrice : ℚ
  bidPrice : ℚ
  askPrice : ℚ
  high24h : ℚ
  low24h : ℚ
  volume24h : ℚ
  timestamp : Int
  deriving DecidableEq, Repr

/-- `models.Trade`. -/
structure Trade where
  symbol : String
  tradeId : String
  price : ℚ
  amount : ℚ
  side : String
  timestamp : Int
  deriving DecidableEq, Repr

/-- `models.Kline`. -/
structure Kline where
  symbol : String
  interval : String
  openTime : Int
  closeTime : Int
  open_ : ℚ
  high : ℚ
  low : ℚ
  close : ℚ
  volume : ℚ
  quoteVol : ℚ
  tradeNum : Int
  deriving DecidableEq, Repr

/-- `models.PriceLevel`. -/
structure PriceLevel where
  price : ℚ
  amount : ℚ
  deriving DecidableEq, Repr

/-- `models.OrderBook`. -/
structure OrderBook where
  symbol : String
  bids : List PriceLevel
  asks : List PriceLevel
  timestamp : Int
  deriving DecidableEq, Repr

/-- `models.PriceLevelWithSource`. -/
structure PriceLevelWithSource where
  price : ℚ
  amount : ℚ
  source : String
  deriving DecidableEq, Repr

/-- `models.OrderBookWithSource`. -/
structure OrderBookWithSource where
  symbol : String
  bids : List PriceLevelWithSource
  asks : List PriceLevelWithSource
  internalBidsCount : Nat
  externalBidsCount : Nat
  internalAsksCount : Nat
  externalAsksCount : Nat
  timestamp : Int
  deriving DecidableEq, Repr

/-- `models.TickerWithSource`. -/
structure TickerWithSource where
  symbol : String
  lastPrice : ℚ
  lastPriceSource : String
  bidPrice : ℚ
  askPrice : ℚ
  high24h : ℚ
  low24h : ℚ
  internalVolume24h : ℚ
  externalVolume24h : ℚ
  totalVolume24h : ℚ
  timestamp : Int
  deriving DecidableEq, Repr

/-- The dynamic type held by `MarketData.Data`.  Type assertions in the source distinguish a
pointer from a value, so `*models.Ticker` and `models.Ticker` are different cases. -/
inductive Payload where
  | ticker (t : Ticker)
  | tickerValue (t : Ticker)
  | orderBook (b : OrderBook)
  | trade (t : Trade)
  | kline (k : Kline)
  | tickerWithSource (t : TickerWithSource)
  | orderBookWithSource (b : OrderBookWithSource)
  | json (v : Json)
  deriving Repr

/-- `models.MarketData`; `type` is the kind tag and `source` the side tag.  Go's zero value
for an unset string field is `""`. -/
structure MarketData where
  exchange : String
  symbol : String
  type : String
  source : String
  timestamp : Int
  data : Payload
  deriving Repr

/-- `models.SymbolConfig`, with the fields the merger reads. -/
structure SymbolConfig where
  symbol : String
  mode : String
  mergeStrategy : String
  deriving DecidableEq, Repr

end MarketSystem
