import MarketSystem.Collector.Routing
import MarketSystem.Processor.Decode

/-!
# Records on the bus, as the processor rebuilds them

`KafkaPublisher.Publish` sends a record to the topic of its type as `utils.ToJSONBytes` of the
whole `MarketData`; the processor's consumer decodes it with `utils.FromJSONBytes` and the
topic's handler rebuilds a `Ticker`, an `OrderBook` or a `Trade` from the payload map, with the
envelope's symbol (and, for a book, the envelope's timestamp).

Prices and amounts come back unchanged, since `encoding/json` prints the shortest decimal that
reads back as the same `float64`.  An `int64` field of the payload comes back as the nearest
`float64`, so a trade or ticker time of `2^53` or more can come back changed.  A merged ticker
has no `volume_24h` key, so the processor reads its volume as `0`, and a merged book's envelope
carries a later clock reading than the book itself.
-/

namespace MarketSystem

namespace Processor

open Adapters Merger

def topicMarketTicker : String := "market.ticker"
def topicMarketDepth : String := "market.depth"
def topicMarketTrade : String := "market.trade"
def topicMarketKline : String := "market.kline"

/-- `KafkaPublisher.getTopicByType`; `""` for a type `Publish` refuses. -/
def getTopicByType (dataType : String) : String :=
  if dataType = dataTypeTicker then topicMarketTicker
  else if dataType = dataTypeDepth then topicMarketDepth
  else if dataType = dataTypeTrade then topicMarketTrade
  else if dataType = dataTypeKline then topicMarketKline
  else ""

/-- What a topic handler of the processor rebuilds. -/
inductive Rebuilt where
  | ticker (t : Ticker)
  | depth (b : OrderBook)
  | trade (t : Trade)
  deriving DecidableEq, Repr

/-- The processor's handlers on a consumed record: the ticker, depth and trade topics rebuild
the record from its payload map (a payload that is not a map is skipped); nothing reads the
kline topic. -/
def handleTopic (topic : String) (data : MarketData) : Option Rebuilt :=
  (payloadObject data).bind fun payload =>
    if topic = topicMarketTicker then some (.ticker (parseTickerFromMap payload data.symbol))
    else if topic = topicMarketDepth then
      some (.depth (parseDepthFromMap payload data.symbol data.timestamp))
    else if topic = topicMarketTrade then some (.trade (parseTradeFromMap payload data.symbol))
    else none

/-- `KafkaPublisher.Publish` of a record, consumed and handled by the processor. -/
def publishAndConsume (d : MarketData) : Option Rebuilt :=
  handleTopic (getTopicByType d.type) d.roundTrip

/-- What the processor should rebuild from a record: its payload, if it is a ticker, a book or
a trade. -/
def payloadRecord : Payload → Option Rebuilt
  | .ticker t | .tickerValue t => some (.ticker t)
  | .orderBook b => some (.depth b)
  | .trade t => some (.trade t)
  | _ => none

/-! ## Reading the encodings back -/

/-- The conversion `int64(f)` returns an integer `float64` unchanged when it fits. -/
theorem int64OfFloat_intCast {n : Int} (fits : n.natAbs < 2 ^ 63) : int64OfFloat n = n := by
  simp only [int64OfFloat, truncToInt_intCast]
  rw [if_pos (by omega)]

/-- An `int64` field reads back as the `float64` nearest to it. -/
theorem getInt64_intJson {m : Json} {key : String} {n : Int}
    (fits : (nearestFloat64 n).natAbs < 2 ^ 63) (found : m.field key = some (intJson n)) :
    getInt64 m key = nearestFloat64 n :=
  getField_of_field found
    (by simp only [intJson, Json.asNumber, Option.map_some', int64OfFloat_intCast fits])

/-- The array of a list of levels, read back by `parsePriceLevels`, when each item reads back as
its level. -/
theorem parsePriceLevels_array {α : Type} (toJson : α → Json) (level : α → PriceLevel)
    (reads : ∀ x, parsePriceLevel (toJson x) = some (level x)) (items : List α) :
    parsePriceLevels (some (.array (items.map toJson))) = items.map level := by
  rw [parsePriceLevels, List.filterMap_map, show parsePriceLevel ∘ toJson = some ∘ level from
    funext reads, List.filterMap_eq_map]

/-- A ticker reads back with its time rounded to a `float64`. -/
theorem parseTickerFromMap_toJson (t : Ticker)
    (fits : (nearestFloat64 t.timestamp).natAbs < 2 ^ 63) :
    parseTickerFromMap t.toJson t.symbol = { t with timestamp := nearestFloat64 t.timestamp } := by
  rw [parseTickerFromMap, @getInt64_intJson t.toJson "timestamp" _ fits rfl]
  rfl

/-- A trade reads back with its time rounded to a `float64`. -/
theorem parseTradeFromMap_toJson (t : Trade)
    (fits : (nearestFloat64 t.timestamp).natAbs < 2 ^ 63) :
    parseTradeFromMap t.toJson t.symbol = { t with timestamp := nearestFloat64 t.timestamp } := by
  rw [parseTradeFromMap, @getInt64_intJson t.toJson "timestamp" _ fits rfl]
  rfl

/-- A book reads back exactly, levels in order. -/
theorem parseDepthFromMap_toJson (b : OrderBook) :
    parseDepthFromMap b.toJson b.symbol b.timestamp = b := by
  have levels := parsePriceLevels_array PriceLevel.toJson id (fun _ => rfl)
  simp only [List.map_id] at levels
  exact congrArg₂ (OrderBook.mk b.symbol · · b.timestamp) (levels b.bids) (levels b.asks)

/-- A merged ticker has no `volume_24h`: it reads back with volume `0`. -/
theorem parseTickerFromMap_tickerWithSource (t : TickerWithSource)
    (fits : (nearestFloat64 t.timestamp).natAbs < 2 ^ 63) :
    parseTickerFromMap t.toJson t.symbol =
      ⟨t.symbol, t.lastPrice, t.bidPrice, t.askPrice, t.high24h, t.low24h, 0,
        nearestFloat64 t.timestamp⟩ := by
  rw [parseTickerFromMap, @getInt64_intJson t.toJson "timestamp" _ fits rfl]
  rfl

/-- A merged book reads back as its levels without their sources, in order. -/
theorem parseDepthFromMap_orderBookWithSource (b : OrderBookWithSource) (symbol : String)
    (timestamp : Int) :
    parseDepthFromMap b.toJson symbol timestamp =
      ⟨symbol, b.bids.map fun level => ⟨level.price, level.amount⟩,
        b.asks.map fun level => ⟨level.price, level.amount⟩, timestamp⟩ := by
  have levels := parsePriceLevels_array PriceLevelWithSource.toJson
    (fun level => ⟨level.price, level.amount⟩) (fun _ => rfl)
  exact congrArg₂ (OrderBook.mk symbol · · timestamp) (levels b.bids) (levels b.asks)

/-! ## The adapters' records -/

/-- The `int64` times of a payload that travel as JSON numbers: a ticker's and a trade's (a
book's time is the envelope's, which is decoded into an `int64`). -/
def payloadTimes : Payload → List Int
  | .ticker t | .tickerValue t => [t.timestamp]
  | .trade t => [t.timestamp]
  | _ => []

/-- A time below `2^53` is a `float64`, and passes through one unchanged. -/
theorem nearestFloat64_fits {n : Int} (small : n.natAbs < 2 ^ 53) :
    (nearestFloat64 n).natAbs < 2 ^ 63 := by
  rw [nearestFloat64_of_lt small]
  omega

/-- Every record an adapter hands over whose ticker or trade time is below `2^53` is rebuilt by
the processor as its own payload; a candle is published but rebuilt by nobody. -/
theorem publishAndConsume_handed {origin : Origin} {d : MarketData} (handed : Handed origin d)
    (exact : ∀ time ∈ payloadTimes d.data, time.natAbs < 2 ^ 53) :
    publishAndConsume d = payloadRecord d.data := by
  have agrees := handed.shaped.agrees
  obtain ⟨exchange, symbol, type, source, timestamp, payload⟩ := d
  cases payload with
  | ticker t | tickerValue t =>
    obtain ⟨rfl, rfl⟩ := agrees
    have small := exact t.timestamp (List.mem_singleton_self _)
    show some (Rebuilt.ticker (parseTickerFromMap t.toJson t.symbol)) = some (Rebuilt.ticker t)
    rw [parseTickerFromMap_toJson t (nearestFloat64_fits small), nearestFloat64_of_lt small]
  | orderBook b =>
    obtain ⟨rfl, rfl, rfl⟩ := agrees
    show some (Rebuilt.depth (parseDepthFromMap b.toJson b.symbol b.timestamp)) =
      some (Rebuilt.depth b)
    rw [parseDepthFromMap_toJson]
  | trade t =>
    obtain ⟨rfl, rfl⟩ := agrees
    have small := exact t.timestamp (List.mem_singleton_self _)
    show some (Rebuilt.trade (parseTradeFromMap t.toJson t.symbol)) = some (Rebuilt.trade t)
    rw [parseTradeFromMap_toJson t (nearestFloat64_fits small), nearestFloat64_of_lt small]
  | kline k =>
    obtain ⟨rfl, -⟩ := agrees
    rfl
  | tickerWithSource _ | orderBookWithSource _ | json _ => exact agrees.elim

theorem publishAndConsume_binanceTicker :
    ∃ d, BinanceAdapter.handleMessage 1000 binanceTickerFrame = .ok (some d) ∧
      (∀ time ∈ payloadTimes d.data, time.natAbs < 2 ^ 53) ∧
      publishAndConsume d = payloadRecord d.data :=
  ⟨_, rfl, by decide, publishAndConsume_handed (.binance 1000 binanceTickerFrame rfl) (by decide)⟩

/-! ## The merger's records -/

/-- `mergeTickerPriority` builds its ticker for the symbol it merges. -/
theorem mergeTickerPriority_symbol {clock : MergeClock} {internal external : Option CachedData}
    {symbol : String} {t : TickerWithSource}
    (merged : mergeTickerPriority clock internal external symbol = some t) : t.symbol = symbol := by
  unfold mergeTickerPriority at merged
  split at merged
  · cases merged
    rfl
  · obtain ⟨_, -, rfl⟩ := Option.map_eq_some'.mp merged
    rfl

/-- A merged ticker is rebuilt with volume `0`, whatever its volumes. -/
theorem publishAndConsume_mergeTicker {m : DataMerger} {clock : MergeClock} {symbol : String}
    {config : SymbolConfig} {r : MarketData}
    (emitted : m.mergeTicker clock symbol config = some r) :
    ∃ t, r.data = .tickerWithSource t ∧
      ((nearestFloat64 t.timestamp).natAbs < 2 ^ 63 →
        publishAndConsume r = some (.ticker ⟨symbol, t.lastPrice, t.bidPrice, t.askPrice,
          t.high24h, t.low24h, 0, nearestFloat64 t.timestamp⟩)) := by
  unfold DataMerger.mergeTicker at emitted
  obtain ⟨t, merged, rfl⟩ := Option.map_eq_some'.mp emitted
  have named : t.symbol = symbol := by
    split_ifs at merged <;> exact mergeTickerPriority_symbol merged
  refine ⟨t, rfl, fun fits => ?_⟩
  show some (Rebuilt.ticker (parseTickerFromMap t.toJson symbol)) = _
  rw [← named, parseTickerFromMap_tickerWithSource t fits]

theorem publishAndConsume_mergeTicker_hybrid :
    ∃ r, ((btcMerger modeHybrid).processData mergeSorter (clockAt 1000)
          (BinanceAdapter.parseTicker binanceTickerFrame "BTCUSDT" 1000)).1.mergeTicker
          (clockAt 1000) "BTCUSDT" ⟨"BTCUSDT", modeHybrid, mergeStrategyPriority⟩ = some r ∧
      ∃ t, r.data = .tickerWithSource t ∧
        ((nearestFloat64 t.timestamp).natAbs < 2 ^ 63 →
          publishAndConsume r = some (.ticker ⟨"BTCUSDT", t.lastPrice, t.bidPrice, t.askPrice,
            t.high24h, t.low24h, 0, nearestFloat64 t.timestamp⟩)) :=
  ⟨_, rfl, @publishAndConsume_mergeTicker ((btcMerger modeHybrid).processData mergeSorter
    (clockAt 1000) (BinanceAdapter.parseTicker binanceTickerFrame "BTCUSDT" 1000)).1 (clockAt 1000)
    "BTCUSDT" ⟨"BTCUSDT", modeHybrid, mergeStrategyPriority⟩ _ rfl⟩

/-- A merged book is rebuilt with its levels in order, but with the envelope's time, a reading
taken after the book's own. -/
theorem publishAndConsume_mergeDepth (sorter : SliceSorter) (m : DataMerger) (clock : MergeClock)
    (symbol : String) (config : SymbolConfig) :
    ∃ b, (m.mergeDepth sorter clock symbol config).data = .orderBookWithSource b ∧
      b.timestamp = clock.bookAt ∧
      publishAndConsume (m.mergeDepth sorter clock symbol config) =
        some (.depth ⟨symbol, b.bids.map fun level => ⟨level.price, level.amount⟩,
          b.asks.map fun level => ⟨level.price, level.amount⟩, clock.mergedAt⟩) := by
  refine ⟨_, rfl, ?_, ?_⟩
  · split_ifs <;> rfl
  · exact congrArg (some ∘ Rebuilt.depth) (parseDepthFromMap_orderBookWithSource _ _ _)

/-! ## A deployment that configures `BTCUSDT` -/

/-- A trade the trading engine posts, stamped in nanoseconds. -/
def engineTrade : InternalAdapter.InternalTradeMessage :=
  ⟨"BTCUSDT", 1, 45000, 1 / 2, "buy", 1700000000123456789⟩

theorem bus_rebuild_diverges :
    (∃ d r t, BinanceAdapter.handleMessage 1000 binanceTickerFrame = .ok (some d) ∧
      ((btcMerger modeHybrid).processData mergeSorter (clockAt 1000) d).2 = some r ∧
      r.data = .tickerWithSource t ∧ t.totalVolume24h = 25 / 2 ∧
      ∃ rebuilt, publishAndConsume r = some (.ticker rebuilt) ∧ rebuilt.volume24h = 0) ∧
    ∃ d, (InternalAdapter.handleTrade "POST" (some engineTrade)).record = some d ∧
      d.data = .trade ⟨"BTCUSDT", "1", 45000, 1 / 2, "buy", 1700000000123456789⟩ ∧
      publishAndConsume d = some (.trade ⟨"BTCUSDT", "1", 45000, 1 / 2, "buy", 1700000000123456768⟩) := by
  have volume : Fmt.scanFloat "12.5" = 25 / 2 := by
    have scanned :
        Fmt.scanFloat "12.5" = (Fmt.digitsValue ['1', '2', '5'] : ℚ) * 10 ^ ((0 : Int) - 1) := rfl
    rw [scanned, show Fmt.digitsValue ['1', '2', '5'] = 125 by decide]
    norm_num
  have rounded : nearestFloat64 1700000000123456789 = 1700000000123456768 := by
    have log : Nat.log 2 1700000000123456789 = 60 :=
      Nat.log_eq_of_pow_le_of_lt_pow (by norm_num) (by norm_num)
    have magnitude : Int.natAbs 1700000000123456789 = 1700000000123456789 := rfl
    simp only [nearestFloat64, magnitude, log]
    decide
  refine ⟨⟨_, _, _, rfl, rfl, rfl, ?_, _, rfl, rfl⟩, _, rfl, rfl, ?_⟩
  · show (0 : ℚ) + Fmt.scanFloat "12.5" = 25 / 2
    rw [volume, zero_add]
  · show some (Rebuilt.trade (parseTradeFromMap (Trade.toJson
      ⟨"BTCUSDT", "1", 45000, 1 / 2, "buy", 1700000000123456789⟩) "BTCUSDT")) = _
    rw [parseTradeFromMap_toJson _ (by rw [rounded]; decide), rounded]

end Processor

end MarketSystem
