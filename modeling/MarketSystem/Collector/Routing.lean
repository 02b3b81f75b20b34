import MarketSystem.Collector.Adapters
import MarketSystem.Collector.Merger

/-!
# What `ProcessData` does with the adapters' records

`DataMerger.ProcessData` dispatches on a record's `Source` tag (`INTERNAL_ONLY`,
`EXTERNAL_ONLY`, and the side `cacheData` writes to) and on its payload's dynamic type (what
`cacheData` stores).  This module says which tags and payloads the three adapters produce and
follows every record they can hand over through `ProcessData`.

`BinanceAdapter` and `OKXAdapter` never set `Source`, so their records carry the empty tag: they
are cached on the external side, but `EXTERNAL_ONLY` drops them, like `INTERNAL_ONLY`.
`InternalAdapter.handleTicker` hands over a `models.Ticker` value, which `cacheData` does not
recognise as a `*models.Ticker`, so the internal side never caches a ticker.
-/

namespace MarketSystem

namespace Adapters

open Merger

/-! ## The records each adapter hands over -/

namespace BinanceAdapter

/-- Every record `handleMessage` hands over is one of the four parsers' results. -/
theorem handleMessage_some {now : Int} {rawMsg : Json} {d : MarketData}
    (handed : handleMessage now rawMsg = .ok (some d)) :
    ∃ symbol, d = parseTicker rawMsg symbol now ∨ d = parseDepth rawMsg symbol now ∨
      d = parseTrade rawMsg symbol now ∨ parseKline rawMsg symbol now = .ok d := by
  unfold handleMessage at handed
  split at handed
  · cases handed
  · split at handed
    · cases handed
    · cases asserted : assertString (rawMsg.field "s") with
      | error message => simp [asserted, bind, Except.bind] at handed
      | ok symbol =>
        simp only [asserted, bind, Except.bind] at handed
        refine ⟨toUpper symbol, ?_⟩
        split at handed
        · exact .inl (Except.ok.inj handed |> Option.some.inj).symm
        · exact .inr (.inl (Except.ok.inj handed |> Option.some.inj).symm)
        · exact .inr (.inr (.inl (Except.ok.inj handed |> Option.some.inj).symm))
        · cases parsed : parseKline rawMsg (toUpper symbol) now <;>
            simp_all [Functor.map, Except.map]
        · cases handed

/-- A candle comes out of `parseKline` as a record of kind `kline`. -/
theorem parseKline_ok {raw : Json} {symbol : String} {timestamp : Int} {d : MarketData}
    (parsed : parseKline raw symbol timestamp = .ok d) :
    d.source = "" ∧ d.type = dataTypeKline ∧
      ∃ k : Kline, d.data = .kline k ∧ k.symbol = d.symbol := by
  simp only [parseKline, bind, Except.bind, pure, Except.pure] at parsed
  repeat' split at parsed
  all_goals cases parsed
  exact ⟨rfl, rfl, _, rfl, rfl⟩

end BinanceAdapter

namespace OKXAdapter

/-- Every record the channel dispatch returns is one of the four parsers' results. -/
theorem dispatch_some {now : Int} {channel : String} {item : Json} {symbol : String}
    {d : MarketData} (dispatched : dispatch now channel item symbol = some d) :
    d = parseTicker item symbol now ∨ d = parseDepth item symbol now ∨
      d = parseTrade item symbol now ∨
        ∃ channel, parseKline item symbol channel now = some d := by
  unfold dispatch at dispatched
  split_ifs at dispatched
  · exact .inl (Option.some.inj dispatched).symm
  · exact .inr (.inl (Option.some.inj dispatched).symm)
  · exact .inr (.inr (.inl (Option.some.inj dispatched).symm))
  · exact .inr (.inr (.inr ⟨channel, dispatched⟩))

/-- Every record `handleMessage` hands over is one of the four parsers' results on the first
item of `data`. -/
theorem handleMessage_some {now : Int} {rawMsg : Json} {d : MarketData}
    (handed : handleMessage now rawMsg = some d) :
    ∃ item symbol, d = parseTicker item symbol now ∨ d = parseDepth item symbol now ∨
      d = parseTrade item symbol now ∨
        ∃ channel, parseKline item symbol channel now = some d := by
  simp only [handleMessage] at handed
  split_ifs at handed
  simp only [Option.bind_eq_bind, Option.bind_eq_some] at handed
  obtain ⟨arg, -, channel, -, data, -, item, -, instId, -, dispatched⟩ := handed
  exact ⟨item, parseSymbol instId, dispatch_some dispatched⟩

/-- A candle comes out of `parseKline` as a record of kind `kline`. -/
theorem parseKline_some {raw : Json} {symbol channel : String} {timestamp : Int} {d : MarketData}
    (parsed : parseKline raw symbol channel timestamp = some d) :
    d.source = "" ∧ d.type = dataTypeKline ∧
      ∃ k : Kline, d.data = .kline k ∧ k.symbol = d.symbol := by
  simp only [parseKline] at parsed
  split at parsed
  · cases parsed
    exact ⟨rfl, rfl, _, rfl, rfl⟩
  · cases parsed

end OKXAdapter

namespace InternalAdapter

/-- Every record a handler hands over is the one its decoded body makes. -/
theorem handlePost_some {α : Type} {toRecord : α → MarketData} {method : String}
    {body : Option α} {d : MarketData}
    (handed : (handlePost toRecord method body).record = some d) :
    ∃ message, d = toRecord message := by
  rw [handlePost_record] at handed
  split_ifs at handed
  obtain ⟨message, -, rfl⟩ := Option.map_eq_some'.mp handed
  exact ⟨message, rfl⟩

end InternalAdapter

/-- Where a record handed to a `MessageHandler` comes from. -/
inductive Origin where
  /-- `BinanceAdapter` or `OKXAdapter`. -/
  | venue
  /-- `InternalAdapter`. -/
  | internal
  deriving DecidableEq, Repr

/-- The `Source` tag each origin's records carry. -/
def Origin.tag : Origin → String
  | .venue => ""
  | .internal => sourceInternal

/-- The records the adapters hand to their `MessageHandler`, by origin. -/
inductive Handed : Origin → MarketData → Prop where
  | binance (now : Int) (rawMsg : Json) {d : MarketData} :
      BinanceAdapter.handleMessage now rawMsg = .ok (some d) → Handed .venue d
  | okx (now : Int) (rawMsg : Json) {d : MarketData} :
      OKXAdapter.handleMessage now rawMsg = some d → Handed .venue d
  | trade (method : String) (body : Option InternalAdapter.InternalTradeMessage) {d : MarketData} :
      (InternalAdapter.handleTrade method body).record = some d → Handed .internal d
  | depth (method : String) (body : Option InternalAdapter.InternalDepthMessage) {d : MarketData} :
      (InternalAdapter.handleDepth method body).record = some d → Handed .internal d
  | ticker (now : Int) (method : String) (body : Option Ticker) {d : MarketData} :
      (InternalAdapter.handleTicker now method body).record = some d → Handed .internal d

/-- A record's envelope and payload agree: the payload is of the kind its `Type` names and for
its symbol, and a book carries the envelope's timestamp. -/
def Agrees (d : MarketData) : Prop :=
  match d.data with
  | .ticker t | .tickerValue t => d.type = dataTypeTicker ∧ t.symbol = d.symbol
  | .orderBook b => d.type = dataTypeDepth ∧ b.symbol = d.symbol ∧ b.timestamp = d.timestamp
  | .trade t => d.type = dataTypeTrade ∧ t.symbol = d.symbol
  | .kline k => d.type = dataTypeKline ∧ k.symbol = d.symbol
  | _ => False

/-- What every record an adapter hands over satisfies: its tag is its origin's, its envelope
agrees with its payload, and `cacheData` files its payload under its kind unless it is a candle
or the internal adapter's ticker value. -/
structure Shaped (origin : Origin) (d : MarketData) : Prop where
  source : d.source = origin.tag
  agrees : Agrees d
  filed : cachedKind d.data =
    if d.type = dataTypeKline ∨ (origin = .internal ∧ d.type = dataTypeTicker) then none
    else some d.type

/-- A candle record with the venues' empty tag is shaped. -/
theorem shaped_kline {d : MarketData} (source : d.source = "") (kline : d.type = dataTypeKline)
    (payload : ∃ k : Kline, d.data = .kline k ∧ k.symbol = d.symbol) : Shaped .venue d := by
  obtain ⟨k, data, symbol⟩ := payload
  refine ⟨source, ?_, ?_⟩
  · simp only [Agrees, data]
    exact ⟨kline, symbol⟩
  · simp [cachedKind, data, kline]

theorem Handed.shaped {origin : Origin} {d : MarketData} (handed : Handed origin d) :
    Shaped origin d := by
  cases handed with
  | binance now rawMsg handed =>
    obtain ⟨symbol, rfl | rfl | rfl | parsed⟩ := BinanceAdapter.handleMessage_some handed
    · exact ⟨rfl, ⟨rfl, rfl⟩, rfl⟩
    · exact ⟨rfl, ⟨rfl, rfl, rfl⟩, rfl⟩
    · exact ⟨rfl, ⟨rfl, rfl⟩, rfl⟩
    · obtain ⟨source, kline, payload⟩ := BinanceAdapter.parseKline_ok parsed
      exact shaped_kline source kline payload
  | okx now rawMsg handed =>
    obtain ⟨item, symbol, rfl | rfl | rfl | ⟨channel, parsed⟩⟩ :=
      OKXAdapter.handleMessage_some handed
    · exact ⟨rfl, ⟨rfl, rfl⟩, rfl⟩
    · exact ⟨rfl, ⟨rfl, rfl, rfl⟩, rfl⟩
    · exact ⟨rfl, ⟨rfl, rfl⟩, rfl⟩
    · obtain ⟨source, kline, payload⟩ := OKXAdapter.parseKline_some parsed
      exact shaped_kline source kline payload
  | trade method body handed =>
    obtain ⟨message, rfl⟩ := InternalAdapter.handlePost_some handed
    exact ⟨rfl, ⟨rfl, rfl⟩, rfl⟩
  | depth method body handed =>
    obtain ⟨message, rfl⟩ := InternalAdapter.handlePost_some handed
    exact ⟨rfl, ⟨rfl, rfl, rfl⟩, rfl⟩
  | ticker now method body handed =>
    obtain ⟨message, rfl⟩ := InternalAdapter.handlePost_some handed
    exact ⟨rfl, ⟨rfl, rfl⟩, rfl⟩

/-! ## A deployment that configures `BTCUSDT` -/

/-- The merger of a deployment whose one configured symbol is `BTCUSDT`, in the given mode. -/
def btcMerger (mode : String) : DataMerger :=
  newDataMerger [⟨"BTCUSDT", mode, mergeStrategyPriority⟩]

/-- Every clock reading of a merge taken at one instant. -/
def clockAt (now : Int) : MergeClock :=
  ⟨now, now, now, now, now, now⟩

/-- A Binance 24-hour ticker frame for `BTCUSDT`. -/
def binanceTickerFrame : Json :=
  .object [("e", .string "24hrTicker"), ("s", .string "BTCUSDT"), ("c", .string "45000.10"),
    ("b", .string "45000.00"), ("a", .string "45000.20"), ("h", .string "46000.00"),
    ("l", .string "44000.00"), ("v", .string "12.5")]

/-- A ticker the trading engine posts for `BTCUSDT`. -/
def engineTicker : Ticker :=
  ⟨"BTCUSDT", 45000, 44999, 45001, 46000, 44000, 3, 1000⟩

/-! ## `ProcessData` on the adapters' records -/

section ProcessData

variable (sorter : SliceSorter) (m : DataMerger) (clock : MergeClock) {config : SymbolConfig}
  {origin : Origin} {d : MarketData}

/-- Under `EXTERNAL_ONLY`, `ProcessData` drops every record an adapter hands over, the venues'
as well: they carry no `Source` tag. -/
theorem processData_externalOnly (handed : Handed origin d)
    (configured : m.symbolConfigs d.symbol = some config)
    (external : config.mode = modeExternalOnly) :
    m.processData sorter clock d = (m, none) := by
  have tag : d.source ≠ sourceExternal := by
    rw [handed.shaped.source]
    cases origin <;> decide
  simp [DataMerger.processData, configured, external, tag, modeExternalOnly, modeInternalOnly]

/-- Under `INTERNAL_ONLY`, `ProcessData` keeps exactly the internal adapter's records. -/
theorem processData_internalOnly (handed : Handed origin d)
    (configured : m.symbolConfigs d.symbol = some config)
    (internal : config.mode = modeInternalOnly) :
    m.processData sorter clock d = (m, if origin = .internal then some d else none) := by
  have tag : d.source = sourceInternal ↔ origin = .internal := by
    rw [handed.shaped.source]
    cases origin <;> decide
  simp [DataMerger.processData, configured, internal, tag]

/-- Under `HYBRID`, `ProcessData` caches a record on the side of its origin, and that cache then
holds the record's payload, except for the internal adapter's ticker.  Candles are not cached. -/
theorem processData_hybrid (handed : Handed origin d)
    (configured : m.symbolConfigs d.symbol = some config) (hybrid : config.mode = modeHybrid)
    (notKline : d.type ≠ dataTypeKline) :
    (isInternal d ↔ origin = .internal) ∧
      ∃ cache, (m.processData sorter clock d).1.cacheOf d = some cache ∧
        (cache.Holds d.data ↔ ¬(origin = .internal ∧ d.type = dataTypeTicker)) := by
  have shaped := handed.shaped
  have side : isInternal d ↔ origin = .internal := by
    simp only [isInternal, decide_eq_true_eq, shaped.source]
    cases origin <;> decide
  have merged : (m.processData sorter clock d).1 = m.cacheData clock.cachedAt d := by
    simp [DataMerger.processData, configured, hybrid, DataMerger.mergeData_fst, modeHybrid,
      modeInternalOnly, modeExternalOnly]
  rw [merged, DataMerger.cacheOf_cacheData]
  refine ⟨side, _, rfl, ?_⟩
  rw [CachedData.holds_stamped]
  have stored := CachedData.store_spec ((m.cacheOf d).getD .empty) d
  have filed := shaped.filed
  by_cases internalTicker : origin = .internal ∧ d.type = dataTypeTicker
  · rw [if_pos (Or.inr internalTicker)] at filed
    refine iff_of_false (fun holds => ?_) (not_not.mpr internalTicker)
    simpa [filed] using holds.isSome_cachedKind
  · rw [if_neg (not_or.mpr ⟨notKline, internalTicker⟩)] at filed
    rw [if_pos filed] at stored
    exact iff_of_true stored internalTicker

end ProcessData

theorem processData_externalOnly_binanceTicker :
    ∃ d, BinanceAdapter.handleMessage 1000 binanceTickerFrame = .ok (some d) ∧
      (btcMerger modeExternalOnly).symbolConfigs d.symbol =
        some ⟨"BTCUSDT", modeExternalOnly, mergeStrategyPriority⟩ ∧
      (btcMerger modeExternalOnly).processData mergeSorter (clockAt 1000) d =
        (btcMerger modeExternalOnly, none) :=
  ⟨_, rfl, rfl,
    processData_externalOnly mergeSorter _ _ (.binance 1000 binanceTickerFrame rfl) rfl rfl⟩

theorem processData_internalOnly_engineTicker :
    ∃ d, (InternalAdapter.handleTicker 1000 "POST" (some engineTicker)).record = some d ∧
      (btcMerger modeInternalOnly).symbolConfigs d.symbol =
        some ⟨"BTCUSDT", modeInternalOnly, mergeStrategyPriority⟩ ∧
      (btcMerger modeInternalOnly).processData mergeSorter (clockAt 1000) d =
        (btcMerger modeInternalOnly, if Origin.internal = .internal then some d else none) :=
  ⟨_, rfl, rfl, processData_internalOnly mergeSorter _ _
    (.ticker 1000 "POST" (some engineTicker) rfl) rfl rfl⟩

theorem processData_hybrid_binanceTicker :
    ∃ d, BinanceAdapter.handleMessage 1000 binanceTickerFrame = .ok (some d) ∧
      (btcMerger modeHybrid).symbolConfigs d.symbol =
        some ⟨"BTCUSDT", modeHybrid, mergeStrategyPriority⟩ ∧ d.type ≠ dataTypeKline ∧
      (isInternal d ↔ Origin.venue = .internal) ∧
      ∃ cache, ((btcMerger modeHybrid).processData mergeSorter (clockAt 1000) d).1.cacheOf d =
          some cache ∧
        (cache.Holds d.data ↔ ¬(Origin.venue = .internal ∧ d.type = dataTypeTicker)) :=
  ⟨_, rfl, rfl, by decide, processData_hybrid mergeSorter _ _
    (.binance 1000 binanceTickerFrame rfl) rfl rfl (by decide)⟩

theorem adapter_records_misrouted :
    (∃ d, BinanceAdapter.handleMessage 1000 binanceTickerFrame = .ok (some d) ∧
      ((btcMerger modeExternalOnly).processData mergeSorter (clockAt 1000) d).2 = none) ∧
    ∃ d, (InternalAdapter.handleTicker 1000 "POST" (some engineTicker)).record = some d ∧
      ((btcMerger modeHybrid).processData mergeSorter (clockAt 1000) d).1.internalData "BTCUSDT" =
        some { CachedData.empty with timestamp := 1000 } :=
  ⟨⟨_, rfl, rfl⟩, _, rfl, rfl⟩

end Adapters

end MarketSystem
