import MarketSystem.Encoding

/-!
# Decoding records in the processor

The processor's consumer unmarshals each Kafka message into `models.MarketData`, so its `Data`
is the payload decoded into `interface{}`.  The topic handlers assert that it is a
`map[string]interface{}` and rebuild a `Ticker`, an `OrderBook` or a `Trade` from it with
`getFloat`, `getInt64` and `getString`, each of which falls back to the zero value when a key is
missing or holds another type.
-/

namespace MarketSystem

namespace Processor

/-- The shape shared by `getFloat`, `getInt64` and `getString`: look `key` up, convert it with
`read` (a type assertion, then a conversion), and fall back to `default`. -/
def getField {α : Type} (read : Option Json → Option α) (default : α) (m : Json)
    (key : String) : α :=
  (read (m.field key)).getD default

/-- `getFloat`. -/
def getFloat (m : Json) (key : String) : ℚ :=
  getField Json.asNumber 0 m key

/-- `getInt64`. -/
def getInt64 (m : Json) (key : String) : Int :=
  getField (fun v => (Json.asNumber v).map int64OfFloat) 0 m key

/-- `getString`. -/
def getString (m : Json) (key : String) : String :=
  getField Json.asString "" m key

@[simp]
theorem getField_of_field {α : Type} {read : Option Json → Option α} {default : α} {m : Json}
    {key : String} {v : Json} {x : α} (found : m.field key = some v)
    (converted : read (some v) = some x) :
    getField read default m key = x := by
  simp [getField, found, converted]

/-- One turn of `parsePriceLevels`' loop: an object gives the level of its `price` and
`amount`, anything else is skipped. -/
def parsePriceLevel : Json → Option PriceLevel
  | .object fields =>
      some ⟨getFloat (.object fields) "price", getFloat (.object fields) "amount"⟩
  | _ => none

/-- `parsePriceLevels`: the items of an array that are objects, in order; anything else is no
levels. -/
def parsePriceLevels : Option Json → List PriceLevel
  | some (.array items) => items.filterMap parsePriceLevel
  | _ => []

/-- `parseTickerFromMap`: the symbol comes from the envelope. -/
def parseTickerFromMap (data : Json) (symbol : String) : Ticker where
  symbol := symbol
  lastPrice := getFloat data "last_price"
  bidPrice := getFloat data "bid_price"
  askPrice := getFloat data "ask_price"
  high24h := getFloat data "high_24h"
  low24h := getFloat data "low_24h"
  volume24h := getFloat data "volume_24h"
  timestamp := getInt64 data "timestamp"

/-- `parseDepthFromMap`: the symbol and the timestamp come from the envelope. -/
def parseDepthFromMap (data : Json) (symbol : String) (timestamp : Int) : OrderBook where
  symbol := symbol
  bids := parsePriceLevels (data.field "bids")
  asks := parsePriceLevels (data.field "asks")
  timestamp := timestamp

/-- `parseTradeFromMap`: the symbol comes from the envelope. -/
def parseTradeFromMap (data : Json) (symbol : String) : Trade where
  symbol := symbol
  tradeId := getString data "trade_id"
  price := getFloat data "price"
  amount := getFloat data "amount"
  side := getString data "side"
  timestamp := getInt64 data "timestamp"

/-- The assertion `data.Data.(map[string]interface{})` every topic handler starts with; a record
whose payload is not an object is skipped. -/
def payloadObject (d : MarketData) : Option Json :=
  match d.data with
  | .json (.object fields) => some (.object fields)
  | _ => none

end Processor

end MarketSystem
