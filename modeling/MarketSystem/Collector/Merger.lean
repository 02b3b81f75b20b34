import MarketSystem.Models
import Mathlib.Algebra.Order.Ring.Rat

/-!
# The data merger

`DataMerger.ProcessData` routes a collector record by the mode configured for its symbol:
`INTERNAL_ONLY` and `EXTERNAL_ONLY` keep or drop it by its `Source` tag, `HYBRID` caches it on the
side its `Source` tag names and emits a merged ticker or book, and a symbol without a
configuration passes through.  The cache dispatches on the kind and on the payload's dynamic
type: a ticker is cached only when it is a `*models.Ticker`, a book only as a
`*models.OrderBook`, a trade only as a `*models.Trade`.

Each call of `time.Now()` in a merge is a reading of its own (`MergeClock`).  `sort.Slice` is
modelled by its contract (`SliceSorter`): it returns a permutation of the levels, sorted by the
comparison, and is not stable.
-/

namespace MarketSystem

namespace Merger

/-- `CachedData`: the latest ticker and book of one side of a symbol, its newest trades, and
when it was last written. -/
structure CachedData where
  ticker : Option Ticker
  depth : Option OrderBook
  trades : List Trade
  timestamp : Int
  deriving DecidableEq, Repr

/-- `&CachedData{}`. -/
def CachedData.empty : CachedData :=
  ⟨none, none, [], 0⟩

/-- `DataMerger`: the configurations and the two caches, by symbol. -/
structure DataMerger where
  symbolConfigs : String → Option SymbolConfig
  internalData : String → Option CachedData
  externalData : String → Option CachedData

/-- `NewDataMerger`: a later configuration of a symbol replaces an earlier one. -/
def newDataMerger (configs : List SymbolConfig) : DataMerger where
  symbolConfigs := configs.foldl (fun m config => Function.update m config.symbol (some config))
    fun _ => none
  internalData := fun _ => none
  externalData := fun _ => none

/-- `UpdateSymbolConfig`. -/
def DataMerger.updateSymbolConfig (m : DataMerger) (config : SymbolConfig) : DataMerger :=
  { m with symbolConfigs := Function.update m.symbolConfigs config.symbol (some config) }

/-- What `time.Now().UnixMilli()` returns at each call one `ProcessData` can make. -/
structure MergeClock where
  /-- `cacheData`'s `cache.Timestamp`. -/
  cachedAt : Int
  /-- `isDataFresh(internal.Timestamp)`. -/
  internalFresh : Int
  /-- `isDataFresh(external.Timestamp)`, for the ticker, the priority book and the
  supplement's bids. -/
  externalFresh : Int
  /-- The supplement's second `isDataFresh(external.Timestamp)`, for its asks. -/
  externalAsksFresh : Int
  /-- The merged book's `Timestamp`. -/
  bookAt : Int
  /-- The merged record's `Timestamp`. -/
  mergedAt : Int

/-- `isDataFresh`, at the reading `now`. -/
def isDataFresh (now timestamp : Int) : Bool :=
  decide (now - timestamp < dataFreshnessThreshold)

/-- The side `cacheData` writes a record to: internal exactly when its tag is `internal`. -/
def isInternal (data : MarketData) : Bool :=
  decide (data.source = sourceInternal)

/-- What `cacheData` stores of a record: by its kind, the payload of the matching pointer type. -/
def CachedData.store (cache : CachedData) (data : MarketData) : CachedData :=
  if data.type = dataTypeTicker then
    match data.data with
    | .ticker t => { cache with ticker := some t }
    | _ => cache
  else if data.type = dataTypeDepth then
    match data.data with
    | .orderBook b => { cache with depth := some b }
    | _ => cache
  else if data.type = dataTypeTrade then
    match data.data with
    | .trade t => { cache with trades := (t :: cache.trades).take 100 }
    | _ => cache
  else cache

/-- `cacheData`: create the side's cache if needed, store the record and stamp the cache. -/
def DataMerger.cacheData (m : DataMerger) (now : Int) (data : MarketData) : DataMerger :=
  if isInternal data then
    let cache := ((m.internalData data.symbol).getD .empty).store data
    let stamped : CachedData := { cache with timestamp := now }
    { m with internalData := Function.update m.internalData data.symbol (some stamped) }
  else
    let cache := ((m.externalData data.symbol).getD .empty).store data
    let stamped : CachedData := { cache with timestamp := now }
    { m with externalData := Function.update m.externalData data.symbol (some stamped) }

/-- The kind `cacheData` files a payload under: only a pointer to a `Ticker`, an `OrderBook` or
a `Trade` is cached. -/
def cachedKind : Payload → Option String
  | .ticker _ => some dataTypeTicker
  | .orderBook _ => some dataTypeDepth
  | .trade _ => some dataTypeTrade
  | _ => none

/-- A cache holds a payload when its latest ticker or book, or its newest trade, is that
payload. -/
def CachedData.Holds (cache : CachedData) : Payload → Prop
  | .ticker t => cache.ticker = some t
  | .orderBook b => cache.depth = some b
  | .trade t => cache.trades.head? = some t
  | _ => False

@[simp]
theorem CachedData.holds_stamped (cache : CachedData) (now : Int) (payload : Payload) :
    ({ cache with timestamp := now } : CachedData).Holds payload ↔ cache.Holds payload := by
  cases payload <;> rfl

/-- Only a payload `cacheData` files can be held. -/
theorem CachedData.Holds.isSome_cachedKind {cache : CachedData} {payload : Payload}
    (holds : cache.Holds payload) : (cachedKind payload).isSome := by
  cases payload <;> first | rfl | exact holds.elim

/-- A record whose payload has the kind its `Type` names is held by the cache it is stored in;
any other record leaves the cache as it was. -/
theorem CachedData.store_spec (cache : CachedData) (data : MarketData) :
    if cachedKind data.data = some data.type then (cache.store data).Holds data.data
    else cache.store data = cache := by
  obtain ⟨exchange, symbol, type, source, timestamp, payload⟩ := data
  split_ifs with filed
  · cases payload <;> simp only [cachedKind, Option.some.injEq, reduceCtorEq] at filed <;>
      subst filed <;> rfl
  · unfold CachedData.store
    by_cases ticker : type = dataTypeTicker
    · subst ticker
      cases payload <;> first | rfl | exact absurd rfl filed
    by_cases depth : type = dataTypeDepth
    · subst depth
      cases payload <;> first | rfl | exact absurd rfl filed
    by_cases trade : type = dataTypeTrade
    · subst trade
      cases payload <;> first | rfl | exact absurd rfl filed
    simp only [ticker, depth, trade, if_false]

/-- The cache of the side `cacheData` files a record under. -/
def DataMerger.cacheOf (m : DataMerger) (data : MarketData) : Option CachedData :=
  if isInternal data then m.internalData data.symbol else m.externalData data.symbol

/-- `cacheData` stores the record in the cache of its side and stamps it. -/
theorem DataMerger.cacheOf_cacheData (m : DataMerger) (now : Int) (data : MarketData) :
    (m.cacheData now data).cacheOf data =
      some { ((m.cacheOf data).getD .empty).store data with timestamp := now } := by
  unfold cacheData cacheOf
  split <;> simp_all

/-- A side's ticker, if it has one and the cache is fresh at `now`. -/
def freshTicker (now : Int) : Option CachedData → Option Ticker
  | some cache => cache.ticker.filter fun _ => isDataFresh now cache.timestamp
  | none => none

/-- A side's book, if it has one and the cache is fresh at `now`. -/
def freshDepth (now : Int) : Option CachedData → Option OrderBook
  | some cache => cache.depth.filter fun _ => isDataFresh now cache.timestamp
  | none => none

/-- `mergeTickerPriority`: prices from the fresh internal ticker, else from the fresh external
one, else nothing; the volumes of whichever tickers are cached, fresh or not. -/
def mergeTickerPriority (clock : MergeClock) (internal external : Option CachedData)
    (symbol : String) : Option TickerWithSource :=
  let internalVolume := ((internal.bind (·.ticker)).map (·.volume24h)).getD 0
  let externalVolume := ((external.bind (·.ticker)).map (·.volume24h)).getD 0
  let fromSide (t : Ticker) (source : String) : TickerWithSource :=
    ⟨symbol, t.lastPrice, source, t.bidPrice, t.askPrice, t.high24h, t.low24h, internalVolume,
      externalVolume, internalVolume + externalVolume, t.timestamp⟩
  match freshTicker clock.internalFresh internal with
  | some t => some (fromSide t sourceInternal)
  | none => (freshTicker clock.externalFresh external).map (fromSide · sourceExternal)

/-- `mergeTickerSupplement`, which delegates to the priority merge. -/
def mergeTickerSupplement (clock : MergeClock) (internal external : Option CachedData)
    (symbol : String) : Option TickerWithSource :=
  mergeTickerPriority clock internal external symbol

/-- `mergeTicker`: the merged ticker as a record of its own, if there is one. -/
def DataMerger.mergeTicker (m : DataMerger) (clock : MergeClock) (symbol : String)
    (config : SymbolConfig) : Option MarketData :=
  let internal := m.internalData symbol
  let external := m.externalData symbol
  let merged :=
    if config.mergeStrategy = mergeStrategyPriority then
      mergeTickerPriority clock internal external symbol
    else if config.mergeStrategy = mergeStrategySupplement then
      mergeTickerSupplement clock internal external symbol
    else mergeTickerPriority clock internal external symbol
  merged.map fun t =>
    ⟨"merged", symbol, dataTypeTicker, sourceMerged, clock.mergedAt, .tickerWithSource t⟩

/-! ### What the ticker merge returns -/

/-- A side is fresh with the ticker `t` at the reading `now`: its cache holds `t` and was
written less than 5000 ms before `now`. -/
def FreshWith (now : Int) (side : Option CachedData) (t : Ticker) : Prop :=
  ∃ cache, side = some cache ∧ cache.ticker = some t ∧ now - cache.timestamp < 5000

/-- The `Volume24h` of a side's cached ticker, fresh or stale; `0` when it has none. -/
def cachedVolume : Option CachedData → ℚ
  | some ⟨some t, _, _, _⟩ => t.volume24h
  | _ => 0

/-- What a merged ticker takes from the ticker it is built on. -/
structure TickerBuiltOn (merged : TickerWithSource) (used : Ticker) : Prop where
  lastPrice : merged.lastPrice = used.lastPrice
  bidPrice : merged.bidPrice = used.bidPrice
  askPrice : merged.askPrice = used.askPrice
  high24h : merged.high24h = used.high24h
  low24h : merged.low24h = used.low24h
  timestamp : merged.timestamp = used.timestamp

theorem freshTicker_eq_some {now : Int} {side : Option CachedData} {t : Ticker} :
    freshTicker now side = some t ↔ FreshWith now side t := by
  cases side <;> simp [freshTicker, FreshWith, isDataFresh, dataFreshnessThreshold, and_comm]

theorem freshTicker_eq_none {now : Int} {side : Option CachedData} :
    freshTicker now side = none ↔ ∀ t, ¬FreshWith now side t := by
  simp only [Option.eq_none_iff_forall_not_mem, Option.mem_def, freshTicker_eq_some]

theorem cachedVolume_eq (side : Option CachedData) :
    ((side.bind (·.ticker)).map (·.volume24h)).getD 0 = cachedVolume side := by
  rcases side with _ | ⟨_ | t, _, _, _⟩ <;> rfl

/-- Every strategy, known or not, merges tickers by priority. -/
theorem DataMerger.mergeTicker_eq (m : DataMerger) (clock : MergeClock) (symbol : String)
    (config : SymbolConfig) :
    m.mergeTicker clock symbol config =
      (mergeTickerPriority clock (m.internalData symbol) (m.externalData symbol) symbol).map
        fun t => ⟨"merged", symbol, dataTypeTicker, sourceMerged, clock.mergedAt, .tickerWithSource t⟩ := by
  unfold DataMerger.mergeTicker mergeTickerSupplement
  split_ifs <;> rfl

theorem mergeTicker_fields (m : DataMerger) (clock : MergeClock) (symbol : String)
    (config : SymbolConfig) :
    (m.mergeTicker clock symbol config = none ↔
      (∀ t, ¬FreshWith clock.internalFresh (m.internalData symbol) t) ∧
        ∀ t, ¬FreshWith clock.externalFresh (m.externalData symbol) t) ∧
    ∀ d, m.mergeTicker clock symbol config = some d →
      ∃ merged used, d.data = .tickerWithSource merged ∧ TickerBuiltOn merged used ∧
        (FreshWith clock.internalFresh (m.internalData symbol) used ∧
            merged.lastPriceSource = sourceInternal ∨
          (∀ t, ¬FreshWith clock.internalFresh (m.internalData symbol) t) ∧
            FreshWith clock.externalFresh (m.externalData symbol) used ∧
            merged.lastPriceSource = sourceExternal) ∧
        merged.internalVolume24h = cachedVolume (m.internalData symbol) ∧
        merged.externalVolume24h = cachedVolume (m.externalData symbol) ∧
        merged.totalVolume24h = merged.internalVolume24h + merged.externalVolume24h := by
  simp only [DataMerger.mergeTicker_eq, mergeTickerPriority, cachedVolume_eq,
    ← freshTicker_eq_none, ← freshTicker_eq_some]
  cases internal : freshTicker clock.internalFresh (m.internalData symbol) with
  | some used =>
      refine ⟨by simp, ?_⟩
      rintro d ⟨⟩
      exact ⟨_, used, rfl, ⟨rfl, rfl, rfl, rfl, rfl, rfl⟩, .inl ⟨rfl, rfl⟩, rfl, rfl, rfl⟩
  | none =>
      cases external : freshTicker clock.externalFresh (m.externalData symbol) with
      | none => simp
      | some used =>
          refine ⟨by simp, ?_⟩
          rintro d ⟨⟩
          exact ⟨_, used, rfl, ⟨rfl, rfl, rfl, rfl, rfl, rfl⟩, .inr ⟨fun _ => nofun, rfl, rfl⟩,
            rfl, rfl, rfl⟩

/-- `sort.Slice` on price levels, by its contract: a permutation of the levels, sorted by the
comparison; nothing is promised about the order of levels at one price. -/
structure SliceSorter where
  sort : (PriceLevelWithSource → PriceLevelWithSource → Bool) → List PriceLevelWithSource →
    List PriceLevelWithSource
  perm : ∀ less levels, (sort less levels).Perm levels
  sortedAsc : ∀ levels, (sort (fun a b => a.price < b.price) levels).Pairwise
    fun a b => a.price ≤ b.price
  sortedDesc : ∀ levels, (sort (fun a b => a.price > b.price) levels).Pairwise
    fun a b => b.price ≤ a.price

/-- Levels of one side of a book, tagged with their source. -/
def tagLevels (source : String) (levels : List PriceLevel) : List PriceLevelWithSource :=
  levels.map fun level => ⟨level.price, level.amount, source⟩

section Depth

variable (sorter : SliceSorter)

/-- `mergeDepthPriority`: the fresh books' levels, tagged, sorted, and cut to 100 a side. -/
def mergeDepthPriority (clock : MergeClock) (internal external : Option CachedData)
    (symbol : String) : OrderBookWithSource :=
  let internalBook := freshDepth clock.internalFresh internal
  let externalBook := freshDepth clock.externalFresh external
  let bids := ((internalBook.map fun b => tagLevels sourceInternal b.bids).getD []) ++
    ((externalBook.map fun b => tagLevels sourceExternal b.bids).getD [])
  let asks := ((internalBook.map fun b => tagLevels sourceInternal b.asks).getD []) ++
    ((externalBook.map fun b => tagLevels sourceExternal b.asks).getD [])
  { symbol := symbol
    bids := (sorter.sort (fun a b => a.price > b.price) bids).take 100
    asks := (sorter.sort (fun a b => a.price < b.price) asks).take 100
    internalBidsCount := ((internalBook.map (·.bids.length)).getD 0)
    externalBidsCount := ((externalBook.map (·.bids.length)).getD 0)
    internalAsksCount := ((internalBook.map (·.asks.length)).getD 0)
    externalAsksCount := ((externalBook.map (·.asks.length)).getD 0)
    timestamp := clock.bookAt }

/-- `mergeDepthSupplement`: the fresh internal book's levels, and on a side with fewer than 20
of them, the fresh external book's; sorted, not cut. -/
def mergeDepthSupplement (clock : MergeClock) (internal external : Option CachedData)
    (symbol : String) : OrderBookWithSource :=
  let internalBook := freshDepth clock.internalFresh internal
  let internalBids := (internalBook.map fun b => tagLevels sourceInternal b.bids).getD []
  let internalAsks := (internalBook.map fun b => tagLevels sourceInternal b.asks).getD []
  let externalBids := if internalBids.length < 20 then freshDepth clock.externalFresh external
    else none
  let externalAsks := if internalAsks.length < 20 then freshDepth clock.externalAsksFresh external
    else none
  { symbol := symbol
    bids := sorter.sort (fun a b => a.price > b.price)
      (internalBids ++ (externalBids.map fun b => tagLevels sourceExternal b.bids).getD [])
    asks := sorter.sort (fun a b => a.price < b.price)
      (internalAsks ++ (externalAsks.map fun b => tagLevels sourceExternal b.asks).getD [])
    internalBidsCount := ((internalBook.map (·.bids.length)).getD 0)
    externalBidsCount := ((externalBids.map (·.bids.length)).getD 0)
    internalAsksCount := ((internalBook.map (·.asks.length)).getD 0)
    externalAsksCount := ((externalAsks.map (·.asks.length)).getD 0)
    timestamp := clock.bookAt }

/-- `mergeDepth`: the merged book as a record of its own; both merges always return a book. -/
def DataMerger.mergeDepth (m : DataMerger) (clock : MergeClock) (symbol : String)
    (config : SymbolConfig) : MarketData :=
  let internal := m.internalData symbol
  let external := m.externalData symbol
  let merged :=
    if config.mergeStrategy = mergeStrategyPriority then
      mergeDepthPriority sorter clock internal external symbol
    else if config.mergeStrategy = mergeStrategySupplement then
      mergeDepthSupplement sorter clock internal external symbol
    else mergeDepthPriority sorter clock internal external symbol
  ⟨"merged", symbol, dataTypeDepth, sourceMerged, clock.mergedAt, .orderBookWithSource merged⟩

/-- `mergeData`: cache the record, then merge by its kind; a trade passes through. -/
def DataMerger.mergeData (m : DataMerger) (clock : MergeClock) (data : MarketData)
    (config : SymbolConfig) : DataMerger × Option MarketData :=
  let m := m.cacheData clock.cachedAt data
  if data.type = dataTypeTicker then (m, m.mergeTicker clock data.symbol config)
  else if data.type = dataTypeDepth then (m, some (m.mergeDepth sorter clock data.symbol config))
  else (m, some data)

/-- `ProcessData`: the merger afterwards and the record it returns (`none` for `nil`). -/
def DataMerger.processData (m : DataMerger) (clock : MergeClock) (data : MarketData) :
    DataMerger × Option MarketData :=
  match m.symbolConfigs data.symbol with
  | none => (m, some data)
  | some config =>
      if config.mode = modeInternalOnly then
        (m, if data.source = sourceInternal then some data else none)
      else if config.mode = modeExternalOnly then
        (m, if data.source = sourceExternal then some data else none)
      else if config.mode = modeHybrid then m.mergeData sorter clock data config
      else (m, some data)

/-- Under any configuration, the merger `ProcessData` leaves behind has cached the record. -/
theorem DataMerger.mergeData_fst (m : DataMerger) (clock : MergeClock) (data : MarketData)
    (config : SymbolConfig) :
    (m.mergeData sorter clock data config).1 = m.cacheData clock.cachedAt data := by
  unfold mergeData
  split_ifs <;> rfl

/-! ### What the depth merges return -/

/-- The levels of one side of a cached book that is fresh at `now`, tagged with `source`; none
when the side has no book or its cache is stale. -/
def freshLevels (side : OrderBook → List PriceLevel) (source : String) (now : Int)
    (cache : Option CachedData) : List PriceLevelWithSource :=
  tagLevels source (((freshDepth now cache).map side).getD [])

/-- `result` is `levels` ordered by `before` and cut to `limit` levels: as many as the limit
allows, in order, and together with the levels left out exactly `levels`, none of the kept ones
ranking after a left-out one. -/
structure TopLevels (before : PriceLevelWithSource → PriceLevelWithSource → Prop) (limit : Nat)
    (levels result : List PriceLevelWithSource) : Prop where
  length : result.length = min limit levels.length
  sorted : result.Pairwise before
  kept : ∃ dropped, (result ++ dropped).Perm levels ∧
    ∀ level ∈ result, ∀ other ∈ dropped, before level other

/-- The first `limit` levels of a sorted permutation of `levels` are its top levels. -/
theorem topLevels_take {before : PriceLevelWithSource → PriceLevelWithSource → Prop}
    {levels sorted : List PriceLevelWithSource} (limit : Nat) (perm : sorted.Perm levels)
    (ordered : sorted.Pairwise before) :
    TopLevels before limit levels (sorted.take limit) := by
  have whole : sorted.take limit ++ sorted.drop limit = sorted := List.take_append_drop _ _
  refine ⟨by rw [List.length_take, perm.length_eq], ordered.sublist (List.take_sublist _ _),
    sorted.drop limit, whole.symm ▸ perm, ?_⟩
  exact (List.pairwise_append.mp (whole.symm ▸ ordered)).2.2

theorem tagLevels_getD (source : String) (side : OrderBook → List PriceLevel)
    (book : Option OrderBook) :
    ((book.map fun b => tagLevels source (side b)).getD []) =
      tagLevels source ((book.map side).getD []) := by
  cases book <;> rfl

/-- Both depth merges, side by side.  The priority merge returns, on each side, the best 100
levels of the fresh books' tagged levels, best first: bids by price from the highest, asks from
the lowest.  The supplement merge returns, on each side, all the fresh internal levels and, when
there are fewer than 20 of them, all the fresh external levels, sorted the same way and not cut;
its asks read the external side's freshness at the second reading. -/
theorem mergeDepth_levels (clock : MergeClock) (internal external : Option CachedData)
    (symbol : String) :
    TopLevels (fun a b => b.price ≤ a.price) 100
        (freshLevels (·.bids) sourceInternal clock.internalFresh internal ++
          freshLevels (·.bids) sourceExternal clock.externalFresh external)
        (mergeDepthPriority sorter clock internal external symbol).bids ∧
      TopLevels (fun a b => a.price ≤ b.price) 100
        (freshLevels (·.asks) sourceInternal clock.internalFresh internal ++
          freshLevels (·.asks) sourceExternal clock.externalFresh external)
        (mergeDepthPriority sorter clock internal external symbol).asks ∧
      ((mergeDepthSupplement sorter clock internal external symbol).bids.Perm
          (freshLevels (·.bids) sourceInternal clock.internalFresh internal ++
            if (freshLevels (·.bids) sourceInternal clock.internalFresh internal).length < 20 then
              freshLevels (·.bids) sourceExternal clock.externalFresh external
            else []) ∧
        (mergeDepthSupplement sorter clock internal external symbol).bids.Pairwise
          fun a b => b.price ≤ a.price) ∧
      ((mergeDepthSupplement sorter clock internal external symbol).asks.Perm
          (freshLevels (·.asks) sourceInternal clock.internalFresh internal ++
            if (freshLevels (·.asks) sourceInternal clock.internalFresh internal).length < 20 then
              freshLevels (·.asks) sourceExternal clock.externalAsksFresh external
            else []) ∧
        (mergeDepthSupplement sorter clock internal external symbol).asks.Pairwise
          fun a b => a.price ≤ b.price) := by
  simp only [mergeDepthPriority, mergeDepthSupplement, freshLevels, tagLevels_getD]
  refine ⟨topLevels_take 100 (sorter.perm _ _) (sorter.sortedDesc _),
    topLevels_take 100 (sorter.perm _ _) (sorter.sortedAsc _),
    ⟨?_, sorter.sortedDesc _⟩, ⟨?_, sorter.sortedAsc _⟩⟩
  · refine (sorter.perm _ _).trans (List.Perm.append_left _ ?_)
    split <;> simp [tagLevels_getD, tagLevels]
  · refine (sorter.perm _ _).trans (List.Perm.append_left _ ?_)
    split <;> simp [tagLevels_getD, tagLevels]

/-! ### The per-source counts of the merged books

Both merges set each count to the number of levels a fresh book put on that side, before the
priority merge cuts the side to 100.  So the supplement merge's counts always describe its book,
and the priority merge's counts describe a side exactly when the fresh books have at most 100
levels on it together. -/

/-- The number of levels of a merged side that carry the tag `source`. -/
def taggedCount (source : String) (levels : List PriceLevelWithSource) : Nat :=
  levels.countP fun level => level.source = source

/-- A side's two per-source counts describe it: each is the number of its levels that carry
that source's tag. -/
def CountsDescribe (internalCount externalCount : Nat) (levels : List PriceLevelWithSource) :
    Prop :=
  internalCount = taggedCount sourceInternal levels ∧
    externalCount = taggedCount sourceExternal levels

theorem taggedCount_append (source : String) (first second : List PriceLevelWithSource) :
    taggedCount source (first ++ second) = taggedCount source first + taggedCount source second :=
  List.countP_append _ _ _

theorem taggedCount_sort (source : String)
    (less : PriceLevelWithSource → PriceLevelWithSource → Bool)
    (levels : List PriceLevelWithSource) :
    taggedCount source (sorter.sort less levels) = taggedCount source levels :=
  (sorter.perm less levels).countP_eq _

/-- A side of a book that may be missing, tagged: all its levels carry the tag. -/
theorem tagged_getD (tag : String) (side : OrderBook → List PriceLevel) (book : Option OrderBook) :
    ∀ level ∈ (book.map fun b => tagLevels tag (side b)).getD [], level.source = tag := by
  cases book with
  | none => nofun
  | some b =>
      simp only [Option.map_some', Option.getD_some, tagLevels, List.mem_map]
      rintro _ ⟨_, _, rfl⟩
      rfl

theorem taggedCount_getD (source tag : String) (side : OrderBook → List PriceLevel)
    (book : Option OrderBook) :
    taggedCount source ((book.map fun b => tagLevels tag (side b)).getD []) =
      if tag = source then (book.map fun b => (side b).length).getD 0 else 0 := by
  cases book with
  | none => simp [taggedCount]
  | some b =>
      by_cases same : tag = source <;>
        simp [taggedCount, tagLevels, List.countP_map, Function.comp_def, same]

/-- On levels tagged `internal` or `external`, the two counts add up to the length. -/
theorem taggedCount_add {levels : List PriceLevelWithSource}
    (tagged : ∀ level ∈ levels, level.source = sourceInternal ∨ level.source = sourceExternal) :
    taggedCount sourceInternal levels + taggedCount sourceExternal levels = levels.length := by
  rw [List.length_eq_countP_add_countP fun level => level.source = sourceInternal]
  refine congrArg _ (List.countP_congr fun level mem => ?_)
  have distinct : sourceInternal ≠ sourceExternal := by decide
  rcases tagged level mem with tag | tag <;> simp [tag, distinct, distinct.symm]

theorem freshLevels_length (side : OrderBook → List PriceLevel) (source : String) (now : Int)
    (cache : Option CachedData) :
    (freshLevels side source now cache).length =
      ((freshDepth now cache).map fun b => (side b).length).getD 0 := by
  simp only [freshLevels, tagLevels, List.length_map]
  cases freshDepth now cache <;> rfl

/-- Counting before a cut: the counts of `levels` describe the first `limit` levels of a
permutation of them exactly when there are at most `limit` levels. -/
theorem countsDescribe_take {levels sorted : List PriceLevelWithSource} (limit : Nat)
    (perm : sorted.Perm levels)
    (tagged : ∀ level ∈ levels, level.source = sourceInternal ∨ level.source = sourceExternal) :
    CountsDescribe (taggedCount sourceInternal levels) (taggedCount sourceExternal levels)
        (sorted.take limit) ↔
      taggedCount sourceInternal levels + taggedCount sourceExternal levels ≤ limit := by
  constructor
  · rintro ⟨internalEq, externalEq⟩
    have kept : ∀ level ∈ sorted.take limit,
        level.source = sourceInternal ∨ level.source = sourceExternal :=
      fun level mem => tagged level (perm.subset (List.mem_of_mem_take mem))
    calc taggedCount sourceInternal levels + taggedCount sourceExternal levels
        = (sorted.take limit).length := by rw [internalEq, externalEq, taggedCount_add kept]
      _ ≤ limit := List.length_take_le _ _
  · intro short
    rw [taggedCount_add tagged, ← perm.length_eq] at short
    rw [List.take_of_length_le short]
    exact ⟨(perm.countP_eq _).symm, (perm.countP_eq _).symm⟩

/-- The supplement merge sorts what it counted and cuts nothing. -/
theorem supplement_counts (clock : MergeClock) (internal external : Option CachedData)
    (symbol : String) :
    CountsDescribe (mergeDepthSupplement sorter clock internal external symbol).internalBidsCount
        (mergeDepthSupplement sorter clock internal external symbol).externalBidsCount
        (mergeDepthSupplement sorter clock internal external symbol).bids ∧
      CountsDescribe (mergeDepthSupplement sorter clock internal external symbol).internalAsksCount
        (mergeDepthSupplement sorter clock internal external symbol).externalAsksCount
        (mergeDepthSupplement sorter clock internal external symbol).asks := by
  have distinct : sourceInternal ≠ sourceExternal := by decide
  simp only [mergeDepthSupplement, CountsDescribe, taggedCount_sort, taggedCount_append,
    taggedCount_getD, distinct, distinct.symm, if_true, if_false, add_zero, zero_add, and_self]

/-- One side of the priority merge: its two counts describe it exactly when the fresh books
have at most 100 levels on that side together. -/
theorem priority_side_counts (side : OrderBook → List PriceLevel)
    (less : PriceLevelWithSource → PriceLevelWithSource → Bool)
    (internalBook externalBook : Option OrderBook) :
    CountsDescribe ((internalBook.map fun b => (side b).length).getD 0)
        ((externalBook.map fun b => (side b).length).getD 0)
        ((sorter.sort less ((internalBook.map fun b => tagLevels sourceInternal (side b)).getD [] ++
          (externalBook.map fun b => tagLevels sourceExternal (side b)).getD [])).take 100) ↔
      (internalBook.map fun b => (side b).length).getD 0 +
        (externalBook.map fun b => (side b).length).getD 0 ≤ 100 := by
  have distinct : sourceInternal ≠ sourceExternal := by decide
  have tagged : ∀ level ∈ (internalBook.map fun b => tagLevels sourceInternal (side b)).getD [] ++
      (externalBook.map fun b => tagLevels sourceExternal (side b)).getD [],
      level.source = sourceInternal ∨ level.source = sourceExternal := by
    simp only [List.mem_append]
    rintro level (mem | mem)
    · exact .inl (tagged_getD _ _ _ level mem)
    · exact .inr (tagged_getD _ _ _ level mem)
  simpa only [taggedCount_append, taggedCount_getD, distinct, distinct.symm, if_true, if_false,
    add_zero, zero_add] using countsDescribe_take 100 (sorter.perm less _) tagged

theorem mergeDepth_counts (clock : MergeClock) (internal external : Option CachedData)
    (symbol : String) :
    CountsDescribe (mergeDepthSupplement sorter clock internal external symbol).internalBidsCount
        (mergeDepthSupplement sorter clock internal external symbol).externalBidsCount
        (mergeDepthSupplement sorter clock internal external symbol).bids ∧
      CountsDescribe (mergeDepthSupplement sorter clock internal external symbol).internalAsksCount
        (mergeDepthSupplement sorter clock internal external symbol).externalAsksCount
        (mergeDepthSupplement sorter clock internal external symbol).asks ∧
      (mergeDepthPriority sorter clock internal external symbol).internalBidsCount =
        (freshLevels (·.bids) sourceInternal clock.internalFresh internal).length ∧
      (mergeDepthPriority sorter clock internal external symbol).externalBidsCount =
        (freshLevels (·.bids) sourceExternal clock.externalFresh external).length ∧
      (mergeDepthPriority sorter clock internal external symbol).internalAsksCount =
        (freshLevels (·.asks) sourceInternal clock.internalFresh internal).length ∧
      (mergeDepthPriority sorter clock internal external symbol).externalAsksCount =
        (freshLevels (·.asks) sourceExternal clock.externalFresh external).length ∧
      (CountsDescribe (mergeDepthPriority sorter clock internal external symbol).internalBidsCount
          (mergeDepthPriority sorter clock internal external symbol).externalBidsCount
          (mergeDepthPriority sorter clock internal external symbol).bids ↔
        (mergeDepthPriority sorter clock internal external symbol).internalBidsCount +
          (mergeDepthPriority sorter clock internal external symbol).externalBidsCount ≤ 100) ∧
      (CountsDescribe (mergeDepthPriority sorter clock internal external symbol).internalAsksCount
          (mergeDepthPriority sorter clock internal external symbol).externalAsksCount
          (mergeDepthPriority sorter clock internal external symbol).asks ↔
        (mergeDepthPriority sorter clock internal external symbol).internalAsksCount +
          (mergeDepthPriority sorter clock internal external symbol).externalAsksCount ≤ 100) :=
  ⟨(supplement_counts sorter clock internal external symbol).1,
    (supplement_counts sorter clock internal external symbol).2,
    (freshLevels_length _ _ _ _).symm, (freshLevels_length _ _ _ _).symm,
    (freshLevels_length _ _ _ _).symm, (freshLevels_length _ _ _ _).symm,
    priority_side_counts sorter _ _ _ _, priority_side_counts sorter _ _ _ _⟩

end Depth

/-- `sort.Slice` as a merge sort, which meets the contract. -/
def mergeSorter : SliceSorter where
  sort less levels := levels.mergeSort fun a b => !less b a
  perm less levels := List.mergeSort_perm levels _
  sortedAsc levels := by
    have sorted := @List.sorted_mergeSort _
      (fun a b : PriceLevelWithSource => !decide (b.price < a.price))
      (by simp only [Bool.not_eq_true', decide_eq_false_iff_not, not_lt]
          exact fun _ _ _ => le_trans)
      (by intro a b
          simp only [Bool.or_eq_true, Bool.not_eq_true', decide_eq_false_iff_not, not_lt]
          exact le_total _ _)
      levels
    simpa only [Bool.not_eq_true', decide_eq_false_iff_not, not_lt] using sorted
  sortedDesc levels := by
    have sorted := @List.sorted_mergeSort _
      (fun a b : PriceLevelWithSource => !decide (b.price > a.price))
      (by simp only [Bool.not_eq_true', decide_eq_false_iff_not, gt_iff_lt, not_lt]
          exact fun _ _ _ first second => le_trans second first)
      (by intro a b
          simp only [Bool.or_eq_true, Bool.not_eq_true', decide_eq_false_iff_not, gt_iff_lt,
            not_lt]
          exact le_total _ _)
      levels
    simpa only [Bool.not_eq_true', decide_eq_false_iff_not, gt_iff_lt, not_lt] using sorted

/-- An internal cache, written at `0`, whose book has 101 bids at one price. -/
def deepInternal : CachedData :=
  ⟨none, some ⟨"BTCUSDT", List.replicate 101 ⟨45000, 1⟩, [], 0⟩, [], 0⟩

theorem priority_counts_overstate :
    (mergeDepthPriority mergeSorter ⟨0, 0, 0, 0, 0, 0⟩ (some deepInternal) none
        "BTCUSDT").internalBidsCount = 101 ∧
      taggedCount sourceInternal
        (mergeDepthPriority mergeSorter ⟨0, 0, 0, 0, 0, 0⟩ (some deepInternal) none "BTCUSDT").bids =
        100 := by
  refine ⟨rfl, ?_⟩
  show taggedCount sourceInternal ((mergeSorter.sort (fun a b => a.price > b.price)
    (tagLevels sourceInternal (List.replicate 101 ⟨45000, 1⟩) ++ [])).take 100) = 100
  rw [taggedCount, List.countP_eq_length.mpr, List.length_take, (mergeSorter.perm _ _).length_eq]
  · rfl
  · intro level mem
    have kept := (mergeSorter.perm _ _).subset (List.mem_of_mem_take mem)
    simp only [tagLevels, List.append_nil, List.mem_map, List.mem_replicate] at kept
    obtain ⟨_, ⟨-, rfl⟩, rfl⟩ := kept
    simp

/-! ## The caches over a sequence of calls

Only a `HYBRID` configuration lets `ProcessData` reach `cacheData`, and only `cacheData` writes a
cache, so each side's cache of a symbol is a fold over the records of that side handed over
while the symbol was `HYBRID`.  The fold keeps, of each kind, only the payloads of the pointer
type the kind names. -/

/-- A call on the merger: `ProcessData`, with the clock readings it makes, or
`UpdateSymbolConfig`. -/
inductive MergerCall where
  | processData (clock : MergeClock) (data : MarketData)
  | updateSymbolConfig (config : SymbolConfig)

/-- The ticker a record leaves in the cache: the payload of a ticker record, when it is a
`*models.Ticker`. -/
def cachedTicker (data : MarketData) : Option Ticker :=
  if data.type = dataTypeTicker then
    match data.data with
    | .ticker t => some t
    | _ => none
  else none

/-- The book a record leaves in the cache: the payload of a depth record, when it is a
`*models.OrderBook`. -/
def cachedDepth (data : MarketData) : Option OrderBook :=
  if data.type = dataTypeDepth then
    match data.data with
    | .orderBook b => some b
    | _ => none
  else none

/-- The trade a record adds to the cache: the payload of a trade record, when it is a
`*models.Trade`. -/
def cachedTrade (data : MarketData) : Option Trade :=
  if data.type = dataTypeTrade then
    match data.data with
    | .trade t => some t
    | _ => none
  else none

/-- A side's cache after the records `(reading, record)` of that side, oldest first: the
latest cached ticker and book, the 100 newest cached trades, newest first, and the reading at
the latest record; no cache at all before the first record. -/
def sideCache (records : List (Int × MarketData)) : Option CachedData :=
  records.getLast?.map fun last =>
    { ticker := (records.filterMap (cachedTicker ·.2)).getLast?
      depth := (records.filterMap (cachedDepth ·.2)).getLast?
      trades := ((records.filterMap (cachedTrade ·.2)).reverse).take 100
      timestamp := last.1 }

/-- The records of one side of `symbol` that `ProcessData` is handed while `symbol` is
configured `HYBRID`, with the reading `cacheData` stamps each with, oldest first. -/
def hybridRecords (symbol : String) (internal : Bool) :
    (String → Option SymbolConfig) → List MergerCall → List (Int × MarketData)
  | _, [] => []
  | configs, .updateSymbolConfig config :: calls =>
      hybridRecords symbol internal (Function.update configs config.symbol (some config)) calls
  | configs, .processData clock data :: calls =>
      (if data.symbol = symbol ∧ (configs symbol).map (·.mode) = some modeHybrid ∧
          isInternal data = internal then [(clock.cachedAt, data)] else []) ++
        hybridRecords symbol internal configs calls

/-- One side's cache of a symbol. -/
def DataMerger.sideData (m : DataMerger) (internal : Bool) (symbol : String) :
    Option CachedData :=
  if internal then m.internalData symbol else m.externalData symbol

/-- `cacheData` as a step on one side's cache. -/
def cacheStep (cache : Option CachedData) (record : Int × MarketData) : Option CachedData :=
  some { (cache.getD .empty).store record.2 with timestamp := record.1 }

/-- What `store` does, field by field. -/
theorem CachedData.store_fields (cache : CachedData) (data : MarketData) :
    (cache.store data).ticker = (cachedTicker data).or cache.ticker ∧
      (cache.store data).depth = (cachedDepth data).or cache.depth ∧
      (cache.store data).trades =
        ((cachedTrade data).map fun t => (t :: cache.trades).take 100).getD cache.trades := by
  obtain ⟨exchange, symbol, type, source, timestamp, payload⟩ := data
  simp only [CachedData.store, cachedTicker, cachedDepth, cachedTrade]
  by_cases ticker : type = dataTypeTicker
  · subst ticker
    cases payload <;> simp [dataTypeTicker, dataTypeDepth, dataTypeTrade]
  by_cases depth : type = dataTypeDepth
  · subst depth
    cases payload <;> simp [dataTypeTicker, dataTypeDepth, dataTypeTrade]
  by_cases trade : type = dataTypeTrade
  · subst trade
    cases payload <;> simp [dataTypeTicker, dataTypeDepth, dataTypeTrade]
  simp [ticker, depth, trade]

@[simp]
theorem DataMerger.cacheData_symbolConfigs (m : DataMerger) (now : Int) (data : MarketData) :
    (m.cacheData now data).symbolConfigs = m.symbolConfigs := by
  unfold cacheData
  split <;> rfl

theorem DataMerger.sideData_cacheData (m : DataMerger) (now : Int) (data : MarketData)
    (internal : Bool) (symbol : String) :
    (m.cacheData now data).sideData internal symbol =
      if data.symbol = symbol ∧ isInternal data = internal then
        cacheStep (m.sideData internal symbol) (now, data)
      else m.sideData internal symbol := by
  unfold cacheData sideData cacheStep
  by_cases same : data.symbol = symbol
  · subst same
    cases internal <;> cases isInternal data <;> simp
  · cases internal <;> cases isInternal data <;> simp [same, Function.update_noteq (Ne.symm same)]

section Calls

variable (sorter : SliceSorter)

/-- The merger after a sequence of calls. -/
def DataMerger.runCalls (m : DataMerger) : List MergerCall → DataMerger
  | [] => m
  | .processData clock data :: calls => (m.processData sorter clock data).1.runCalls calls
  | .updateSymbolConfig config :: calls => (m.updateSymbolConfig config).runCalls calls

/-- `ProcessData` caches a record exactly when its symbol is configured `HYBRID`, and changes
nothing else of the merger. -/
theorem DataMerger.processData_fst (m : DataMerger) (clock : MergeClock) (data : MarketData) :
    (m.processData sorter clock data).1 =
      if (m.symbolConfigs data.symbol).map (·.mode) = some modeHybrid then
        m.cacheData clock.cachedAt data
      else m := by
  unfold processData
  cases m.symbolConfigs data.symbol with
  | none => simp
  | some config =>
      by_cases hybrid : config.mode = modeHybrid
      · simp [hybrid, mergeData_fst, modeHybrid, modeInternalOnly, modeExternalOnly]
      · simp only [Option.map_some', Option.some.injEq, hybrid, if_false]
        split_ifs <;> rfl

/-- Each side's cache after a sequence of calls is its cache before, folded over the side's
`HYBRID` records. -/
theorem DataMerger.runCalls_sideData (internal : Bool) (symbol : String) (calls : List MergerCall) :
    ∀ m : DataMerger, (m.runCalls sorter calls).sideData internal symbol =
      (hybridRecords symbol internal m.symbolConfigs calls).foldl cacheStep
        (m.sideData internal symbol) := by
  induction calls with
  | nil => intro m; rfl
  | cons call calls ih =>
      intro m
      cases call with
      | updateSymbolConfig config => exact ih (m.updateSymbolConfig config)
      | processData clock data =>
          rw [runCalls, hybridRecords, ih, List.foldl_append, processData_fst]
          by_cases hybrid : (m.symbolConfigs data.symbol).map (·.mode) = some modeHybrid
          · rw [if_pos hybrid, sideData_cacheData]
            by_cases mine : data.symbol = symbol ∧ isInternal data = internal
            · obtain ⟨rfl, side⟩ := mine
              simp [hybrid, side]
            · simp only [mine, if_false, cacheData_symbolConfigs]
              split_ifs <;> simp_all
          · by_cases same : data.symbol = symbol
            · subst same; simp [hybrid]
            · simp [hybrid, same]

end Calls

/-- Stamping one more record into the cache the records describe gives the cache of the longer
list. -/
theorem cacheStep_sideCache (records : List (Int × MarketData)) (record : Int × MarketData) :
    cacheStep (sideCache records) record = sideCache (records ++ [record]) := by
  obtain ⟨now, data⟩ := record
  have prior : ((sideCache records).getD .empty).ticker =
        (records.filterMap (cachedTicker ·.2)).getLast? ∧
      ((sideCache records).getD .empty).depth = (records.filterMap (cachedDepth ·.2)).getLast? ∧
      ((sideCache records).getD .empty).trades =
        ((records.filterMap (cachedTrade ·.2)).reverse).take 100 := by
    cases last : records.getLast? with
    | none => simp [List.getLast?_eq_none_iff.mp last, sideCache, CachedData.empty]
    | some _ => simp [sideCache, last]
  obtain ⟨ticker, depth, trades⟩ := CachedData.store_fields ((sideCache records).getD .empty) data
  simp only [cacheStep]
  rw [ticker, depth, trades, prior.1, prior.2.1, prior.2.2]
  simp only [sideCache, List.getLast?_concat, Option.map_some', List.filterMap_append,
    List.filterMap_cons, List.filterMap_nil, Option.some.injEq, CachedData.mk.injEq, and_true]
  refine ⟨?_, ?_, ?_⟩
  · cases cachedTicker data <;> simp
  · cases cachedDepth data <;> simp
  · cases cachedTrade data <;> simp [List.take_take]

theorem foldl_cacheStep (records : List (Int × MarketData)) :
    ∀ earlier, records.foldl cacheStep (sideCache earlier) = sideCache (earlier ++ records) := by
  induction records with
  | nil => simp
  | cons record records ih =>
      intro earlier
      rw [List.foldl_cons, cacheStep_sideCache, ih, List.append_assoc, List.singleton_append]

/-- From `NewDataMerger`, whatever calls follow, each side's cache of a symbol is what the side's
`HYBRID` records describe: the latest `*models.Ticker` of a ticker record, the latest
`*models.OrderBook` of a depth record, the 100 newest `*models.Trade`s of trade records, newest
first, and the reading at the latest record of any kind. -/
theorem runCalls_caches (sorter : SliceSorter) (configs : List SymbolConfig)
    (calls : List MergerCall) (symbol : String) :
    ((newDataMerger configs).runCalls sorter calls).internalData symbol =
        sideCache (hybridRecords symbol true (newDataMerger configs).symbolConfigs calls) ∧
      ((newDataMerger configs).runCalls sorter calls).externalData symbol =
        sideCache (hybridRecords symbol false (newDataMerger configs).symbolConfigs calls) :=
  ⟨by simpa [DataMerger.sideData, newDataMerger] using
      (DataMerger.runCalls_sideData sorter true symbol calls (newDataMerger configs)).trans
        (foldl_cacheStep _ []),
    by simpa [DataMerger.sideData, newDataMerger] using
      (DataMerger.runCalls_sideData sorter false symbol calls (newDataMerger configs)).trans
        (foldl_cacheStep _ [])⟩

/-- A BTCUSDT ticker tagged internal, with its last price. -/
def internalTicker (lastPrice : ℚ) (payload : Ticker → Payload) : MarketData :=
  ⟨exchangeInternal, "BTCUSDT", dataTypeTicker, sourceInternal, 0,
    payload ⟨"BTCUSDT", lastPrice, lastPrice, lastPrice, lastPrice, lastPrice, 0, 0⟩⟩

/-- Every reading of a merge at one instant. -/
def clockAtOnce (now : Int) : MergeClock :=
  ⟨now, now, now, now, now, now⟩

/-- Under `HYBRID`, a ticker record whose payload is a `*models.Ticker` and then a later one whose
payload is a `models.Ticker` value (as `InternalAdapter.handleTicker` posts it): the cache keeps
the earlier ticker, not the latest ticker record's, while the cache is stamped by the later. -/
theorem cached_ticker_not_latest :
    ((newDataMerger [⟨"BTCUSDT", modeHybrid, mergeStrategyPriority⟩]).runCalls mergeSorter
        [.processData (clockAtOnce 1000) (internalTicker 45000 .ticker),
          .processData (clockAtOnce 2000) (internalTicker 45100 .tickerValue)]).internalData
        "BTCUSDT" =
      some ⟨some ⟨"BTCUSDT", 45000, 45000, 45000, 45000, 45000, 0, 0⟩, none, [], 2000⟩ :=
  rfl

end Merger

end MarketSystem
