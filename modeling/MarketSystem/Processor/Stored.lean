import MarketSystem.Processor.Consumers

/-!
# What Redis holds after a run of the processor

Closed forms of the cells the processor writes, after any interleaving of its three goroutines
in which each has sent the commands for its last record.  The hash of a symbol's ticker holds
the fields of the latest ticker of the symbol, the string of its book the latest book with both
sides sorted, its trade list the newest 100 trades newest first, and each of its candle lists
the newest 1000 candles closed for it.  Each channel has carried one message for every record
of its symbol and data type, in the order the records were fetched: none is lost and none is
published twice, however the goroutines interleave.
-/

namespace MarketSystem

namespace Processor

open Adapters

section Stored

variable (sorter : LevelSorter) (loc : Location)

/-! ## Tickers -/

/-- The latest ticker of `symbol` in a sequence. -/
def latestTicker (symbol : String) (tickers : List Ticker) : Option Ticker :=
  (tickers.filter (·.symbol = symbol)).getLast?

theorem latestTicker_cons (symbol : String) (ticker : Ticker) (tickers : List Ticker) :
    latestTicker symbol (ticker :: tickers) =
      (latestTicker symbol tickers).or (if ticker.symbol = symbol then some ticker else none) := by
  unfold latestTicker
  rw [List.filter_cons]
  by_cases same : ticker.symbol = symbol
  · rw [if_pos (decide_eq_true same), List.getLast?_cons, if_pos same]
    cases (tickers.filter (·.symbol = symbol)).getLast? <;> rfl
  · simp [same]

/-- Each `SaveTicker` replaces the whole hash of its symbol, so the hash is the latest ticker's. -/
theorem foldl_saveTicker_hashes (symbol : String) (tickers : List Ticker) (st : RedisState) :
    (tickers.foldl saveTicker st).hashes (redisKeyTicker ++ symbol) =
      ((latestTicker symbol tickers).map tickerHash).getD (st.hashes (redisKeyTicker ++ symbol)) := by
  induction tickers generalizing st with
  | nil => rfl
  | cons ticker tickers ih =>
    rw [List.foldl_cons, ih, latestTicker_cons]
    cases latestTicker symbol tickers with
    | some latest => rfl
    | none =>
      by_cases same : ticker.symbol = symbol
      · subst same
        simp
      · have key : redisKeyTicker ++ symbol ≠ redisKeyTicker ++ ticker.symbol :=
          fun equal => same (key_append_inj _ equal).symm
        simp [same, key, Function.update_apply]

/-! ## Books -/

/-- `HandleDepth` at the level of commands, when every manager is filed under its own symbol:
the book's symbol gets the book's sorted levels, and they are saved. -/
theorem handleDepthCommands_eq {managers : String → Option DepthManager}
    (keyed : ∀ symbol m, managers symbol = some m → m.symbol = symbol) (depth : OrderBook) :
    handleDepthCommands sorter managers depth =
      (Function.update managers depth.symbol (some (DepthManager.ofBook sorter depth)),
        depthCommands ⟨depth.symbol, (DepthManager.ofBook sorter depth).bids,
          (DepthManager.ofBook sorter depth).asks, depth.timestamp⟩) := by
  have named : ((managers depth.symbol).getD (newDepthManager depth.symbol)).symbol =
      depth.symbol := by
    cases found : managers depth.symbol with
    | none => rfl
    | some m => exact keyed _ m found
  simp only [handleDepthCommands, DepthManager.sortDepth, named]
  rfl

/-- The message the depth topic's handler publishes for a book: the book with both sides
sorted. -/
def sortedBookMessage (depth : OrderBook) : RedisMessage :=
  ⟨marketChannel depth.symbol dataTypeDepth,
    some (OrderBook.toJson ⟨depth.symbol, (DepthManager.ofBook sorter depth).bids,
      (DepthManager.ofBook sorter depth).asks, depth.timestamp⟩)⟩

theorem consume_depth_messages (records : List MarketData) :
    ∀ managers : String → Option DepthManager,
      (∀ symbol m, managers symbol = some m → m.symbol = symbol) →
      (consume (depthHandler sorter) managers records).2.filterMap RedisCommand.message =
        (records.filterMap decodeDepth).map (sortedBookMessage sorter) := by
  induction records with
  | nil => intro _ _; rfl
  | cons d records ih =>
    intro managers keyed
    simp only [consume, List.filterMap_append, List.filterMap_cons, depthHandler]
    cases decodeDepth d with
    | none => simpa using ih managers keyed
    | some depth =>
      have keyed' : ∀ symbol m, Function.update managers depth.symbol
          (some (DepthManager.ofBook sorter depth)) symbol = some m → m.symbol = symbol := by
        intro symbol m found
        rw [Function.update_apply] at found
        split_ifs at found with same
        · cases found
          exact same.symm
        · exact keyed symbol m found
      dsimp only
      rw [handleDepthCommands_eq sorter keyed, ih _ keyed']
      rfl

/-! ## Trades and candles -/

/-- `LPUSH` of a trade's encoding followed by `LTRIM` to the newest 100. -/
def pushTrade (list : List Json) (trade : Trade) : List Json :=
  (trade.toJson :: list).take 100

theorem foldl_saveKline_lists_trade (klines : List Kline) (st : RedisState) (symbol : String) :
    (klines.foldl saveKline st).lists (redisKeyTrade ++ symbol) = st.lists (redisKeyTrade ++ symbol) := by
  induction klines generalizing st with
  | nil => rfl
  | cons k klines ih =>
    rw [List.foldl_cons, ih, saveKline_lists, RedisState.pushTrim_lists]
    exact if_neg (Ne.symm (klineKey_ne_tradeKey k.symbol k.interval symbol))

/-- The trade topic's handler pushes each trade on its symbol's list, and the candles it saves
never touch a trade list. -/
theorem handleTradeRecords_trades (symbol : String) :
    ∀ (records : List MarketData) (p : TradePipeline),
      (handleTradeRecords loc p records).storage.lists (redisKeyTrade ++ symbol) =
        ((records.filterMap decodeTrade).filter (·.symbol = symbol)).foldl pushTrade
          (p.storage.lists (redisKeyTrade ++ symbol))
  | [], _ => rfl
  | d :: records, p => by
    have rest := handleTradeRecords_trades symbol records (handleTradeRecord loc p d)
    simp only [handleTradeRecords, List.foldl_cons] at rest ⊢
    rw [rest, List.filterMap_cons]
    cases decoded : decodeTrade d with
    | none => simp [handleTradeRecord, decoded]
    | some trade =>
      simp only [handleTradeRecord, decoded, foldl_saveKline_lists_trade, saveTrade_lists,
        RedisState.pushTrim_lists, List.filter_cons]
      by_cases same : trade.symbol = symbol
      · subst same
        simp [pushTrade]
      · have key : redisKeyTrade ++ symbol ≠ redisKeyTrade ++ trade.symbol :=
          fun equal => same (key_append_inj _ equal).symm
        simp [same, key]

/-- A command the processor issues writes the candle list of a colon-free interval only when the
processor maintains that interval. -/
theorem maintained_of_writes_klineKey {topic : MarketTopic} {records : List MarketData}
    {command : RedisCommand} (mem : command ∈ issued sorter loc topic records)
    {symbol interval : String} (writes : command.writes (.list (klineKey symbol interval)))
    (colonFree : ':' ∉ interval.data) : interval ∈ klineIntervals := by
  have issues := issued_issues sorter loc topic records command mem
  cases command with
  | pushTrim key value limit ttl =>
    obtain rfl : topic = .trade := issues
    have key_eq : key = klineKey symbol interval := of_decide_eq_true writes
    rcases mem_consume_tradeHandler loc records newKlineHandler _ mem with
      ⟨trade, saved⟩ | ⟨k, saved, same⟩
    · simp only [tradeCommands, List.mem_cons, RedisCommand.pushTrim.injEq,
        reduceCtorEq, List.mem_nil_iff, or_false] at saved
      exact absurd (key_eq.symm.trans saved.1) (klineKey_ne_tradeKey _ _ _)
    · have maintained := KlineHandler.interval_mem_of_mem_handleTrades
        KlineHandler.newKlineHandler_owns saved
      simp only [klineCommand, RedisCommand.pushTrim.injEq] at same
      rw [klineKey_interval_eq colonFree (klineIntervals_colonFree _ maintained)
        (key_eq.symm.trans same.1)]
      exact maintained
  | _ => simp [RedisCommand.writes] at writes

/-- Pushing onto a list of at most 100 entries keeps the newest 100, newest first. -/
theorem foldl_pushTrade (trades : List Trade) {list : List Json} (short : list.length ≤ 100) :
    trades.foldl pushTrade list = ((trades.reverse.map Trade.toJson) ++ list).take 100 := by
  induction trades generalizing list with
  | nil => simp [List.take_of_length_le short]
  | cons trade trades ih =>
    rw [List.foldl_cons, ih (by simp [pushTrade])]
    simp only [pushTrade, List.reverse_cons, List.map_append, List.map_cons, List.map_nil,
      List.append_assoc, List.singleton_append]
    rw [List.take_append_eq_append_take, List.take_append_eq_append_take, List.take_take,
      Nat.min_eq_left (Nat.sub_le _ _)]

theorem consume_trade_messages (records : List MarketData) :
    ∀ h : KlineHandler,
      (consume (tradeHandler loc) h records).2.filterMap RedisCommand.message =
        (records.filterMap decodeTrade).map fun trade =>
          ⟨marketChannel trade.symbol dataTypeTrade, some trade.toJson⟩ := by
  induction records with
  | nil => intro _; rfl
  | cons d records ih =>
    intro h
    simp only [consume, List.filterMap_append, List.filterMap_cons, tradeHandler]
    cases decodeTrade d with
    | none => simpa using ih h
    | some trade =>
      simp [ih, tradeCommands, klineCommand, RedisCommand.message, List.filterMap_map]

/-! ## Messages -/

theorem consume_ticker_messages (records : List MarketData) :
    (issued sorter loc .ticker records).filterMap RedisCommand.message =
      (records.filterMap decodeTicker).map fun ticker =>
        ⟨marketChannel ticker.symbol dataTypeTicker, some ticker.toJson⟩ := by
  induction records with
  | nil => rfl
  | cons d records ih =>
    simp only [issued, consume, List.filterMap_append, List.filterMap_cons, tickerHandler] at ih ⊢
    rw [ih]
    cases decodeTicker d <;> rfl

/-- The messages a topic's handler publishes for a sequence of records. -/
def publishedBy : MarketTopic → List MarketData → List RedisMessage
  | .ticker, records => (records.filterMap decodeTicker).map fun ticker =>
      ⟨marketChannel ticker.symbol dataTypeTicker, some ticker.toJson⟩
  | .depth, records => (records.filterMap decodeDepth).map (sortedBookMessage sorter)
  | .trade, records => (records.filterMap decodeTrade).map fun trade =>
      ⟨marketChannel trade.symbol dataTypeTrade, some trade.toJson⟩

theorem issued_messages (topic : MarketTopic) (records : List MarketData) :
    (issued sorter loc topic records).filterMap RedisCommand.message =
      publishedBy sorter topic records := by
  cases topic
  · exact consume_ticker_messages sorter loc records
  · exact consume_depth_messages sorter records _ fun _ _ found => nomatch found
  · exact consume_trade_messages loc records _

omit sorter loc in
/-- The messages of the records of one symbol are those on the symbol's channel, when each
record's message goes to the channel of the record's symbol. -/
theorem filter_channel_map {α : Type} {decode : MarketData → Option α} {symbolOf : α → String}
    (named : ∀ d x, decode d = some x → symbolOf x = d.symbol) {message : α → RedisMessage}
    {dataType : String} (routed : ∀ x, (message x).channel = marketChannel (symbolOf x) dataType)
    (symbol : String) (records : List MarketData) :
    ((records.filterMap decode).map message).filter (·.channel = marketChannel symbol dataType) =
      ((records.filter (·.symbol = symbol)).filterMap decode).map message := by
  induction records with
  | nil => rfl
  | cons d records ih =>
    rw [List.filter_cons, List.filterMap_cons]
    cases decoded : decode d with
    | none => by_cases mine : d.symbol = symbol <;> simp [decoded, ih, mine]
    | some x =>
      have same : (marketChannel (symbolOf x) dataType = marketChannel symbol dataType) ↔
          d.symbol = symbol := by
        rw [← named d x decoded]
        exact ⟨marketChannel_inj, congrArg (marketChannel · dataType)⟩
      by_cases mine : d.symbol = symbol <;> simp [decoded, ih, routed, same, mine]

theorem publishedBy_filter_channel (topic : MarketTopic) (symbol : String)
    (records : List MarketData) :
    (publishedBy sorter topic records).filter (·.channel = marketChannel symbol topic.dataType) =
      publishedBy sorter topic (records.filter (·.symbol = symbol)) := by
  have named : ∀ {α : Type} (parse : Json → MarketData → α) (symbolOf : α → String),
      (∀ m d, symbolOf (parse m d) = d.symbol) →
      ∀ d x, (payloadObject d).map (fun m => parse m d) = some x → symbolOf x = d.symbol := by
    intro α parse symbolOf parsed d x decoded
    obtain ⟨m, _, rfl⟩ := Option.map_eq_some'.mp decoded
    exact parsed m d
  cases topic
  · exact filter_channel_map (named (fun m d => parseTickerFromMap m d.symbol) Ticker.symbol
      fun _ _ => rfl) (fun _ => rfl) symbol records
  · exact filter_channel_map (named (fun m d => parseDepthFromMap m d.symbol d.timestamp)
      OrderBook.symbol fun _ _ => rfl) (fun _ => rfl) symbol records
  · exact filter_channel_map (named (fun m d => parseTradeFromMap m d.symbol) Trade.symbol
      fun _ _ => rfl) (fun _ => rfl) symbol records

/-! ## The depth managers -/

omit sorter loc in
/-- The first level of a side sorted from the highest price has the highest price. -/
theorem head?_highest {levels : List PriceLevel}
    (sorted : levels.Pairwise fun a b => b.price ≤ a.price) {best : PriceLevel}
    (first : levels.head? = some best) : ∀ other ∈ levels, other.price ≤ best.price := by
  cases levels with
  | nil => cases first
  | cons head rest =>
    cases first
    intro other mem
    rcases List.mem_cons.mp mem with rfl | later
    · exact le_refl _
    · exact List.rel_of_pairwise_cons sorted later

omit sorter loc in
/-- The first level of a side sorted from the lowest price has the lowest price. -/
theorem head?_lowest {levels : List PriceLevel}
    (sorted : levels.Pairwise fun a b => a.price ≤ b.price) {best : PriceLevel}
    (first : levels.head? = some best) : ∀ other ∈ levels, best.price ≤ other.price := by
  cases levels with
  | nil => cases first
  | cons head rest =>
    cases first
    intro other mem
    rcases List.mem_cons.mp mem with rfl | later
    · exact le_refl _
    · exact List.rel_of_pairwise_cons sorted later

omit sorter loc in
theorem head?_eq_none_of_perm {levels levels' : List PriceLevel} (perm : levels.Perm levels') :
    levels.head? = none ↔ levels' = [] := by
  rw [List.head?_eq_none_iff, ← List.length_eq_zero, perm.length_eq, List.length_eq_zero]

omit loc in
/-- The best bid of the manager built from a book is a highest-priced bid of the book. -/
theorem ofBook_getBestBid {latest : OrderBook} {bid : PriceLevel}
    (first : (DepthManager.ofBook sorter latest).getBestBid = some bid) :
    bid ∈ latest.bids ∧ ∀ other ∈ latest.bids, other.price ≤ bid.price :=
  have sorted := sortedBook_ofBook sorter latest
  ⟨sorted.bidsPerm.subset (List.mem_of_mem_head? first), fun other mem =>
    head?_highest sorted.bidsSorted first other (sorted.bidsPerm.symm.subset mem)⟩

omit loc in
/-- The best ask of the manager built from a book is a lowest-priced ask of the book. -/
theorem ofBook_getBestAsk {latest : OrderBook} {ask : PriceLevel}
    (first : (DepthManager.ofBook sorter latest).getBestAsk = some ask) :
    ask ∈ latest.asks ∧ ∀ other ∈ latest.asks, ask.price ≤ other.price :=
  have sorted := sortedBook_ofBook sorter latest
  ⟨sorted.asksPerm.subset (List.mem_of_mem_head? first), fun other mem =>
    head?_lowest sorted.asksSorted first other (sorted.asksPerm.symm.subset mem)⟩

omit loc in
theorem ofBook_getBestBid_eq_none (latest : OrderBook) :
    (DepthManager.ofBook sorter latest).getBestBid = none ↔ latest.bids = [] :=
  head?_eq_none_of_perm (sortedBook_ofBook sorter latest).bidsPerm

omit loc in
theorem ofBook_getBestAsk_eq_none (latest : OrderBook) :
    (DepthManager.ofBook sorter latest).getBestAsk = none ↔ latest.asks = [] :=
  head?_eq_none_of_perm (sortedBook_ofBook sorter latest).asksPerm

/-! ## After a run -/

section Run

variable {sorter loc}
variable {storage : RedisState} {events : List ProcessorEvent} {s : ProcessorState}

/-- The hash `ticker:{symbol}` holds the fields of the latest ticker of the symbol the ticker
goroutine has handled, or what it held before the run when there is none. -/
theorem run_idle_ticker_hash (reached : (newProcessor storage).run sorter loc events = some s)
    (idle : ∀ topic, s.pending topic = []) (symbol : String) :
    s.storage.hashes (redisKeyTicker ++ symbol) =
      ((latestTicker symbol ((fetched .ticker events).filterMap decodeTicker)).map tickerHash).getD
        (storage.hashes (redisKeyTicker ++ symbol)) := by
  have cell := run_idle_read_topic sorter loc reached idle
    (show MarketTopic.ticker.Issues (.hset (redisKeyTicker ++ symbol) []) from rfl)
    (show RedisCommand.writes (.hset (redisKeyTicker ++ symbol) []) (.hash (redisKeyTicker ++ symbol))
      from decide_eq_true rfl)
  simp only [RedisState.read, CellContents.hash.injEq, sendAll_issued_ticker] at cell
  rw [cell, foldl_saveTicker_hashes]

/-- The string `depth:{symbol}` holds the latest book of the symbol the depth goroutine has
handled, both sides sorted, or what it held before the run when there is none. -/
theorem run_idle_depth_string (reached : (newProcessor storage).run sorter loc events = some s)
    (idle : ∀ topic, s.pending topic = []) (symbol : String) :
    s.storage.strings (redisKeyDepth ++ symbol) =
      ((latestBook symbol ((fetched .depth events).filterMap decodeDepth)).map fun latest =>
          OrderBook.toJson ⟨symbol, (DepthManager.ofBook sorter latest).bids,
            (DepthManager.ofBook sorter latest).asks, latest.timestamp⟩).or
        (storage.strings (redisKeyDepth ++ symbol)) := by
  have cell := run_idle_read_topic sorter loc reached idle
    (show MarketTopic.depth.Issues (.set (redisKeyDepth ++ symbol) .null 0) from rfl)
    (show RedisCommand.writes (.set (redisKeyDepth ++ symbol) .null 0) (.string (redisKeyDepth ++ symbol))
      from decide_eq_true rfl)
  simp only [RedisState.read, CellContents.string.injEq, sendAll_issued_depth] at cell
  rw [cell, ((handleDepths_spec sorter _ (wellKeyed_newDepthHandler storage)).2 symbol).2]
  rfl

/-- From a trade list of at most 100 entries, the list `trade:{symbol}` holds the newest 100
trades of the symbol, newest first, ahead of what it held before the run. -/
theorem run_idle_trade_list (reached : (newProcessor storage).run sorter loc events = some s)
    (idle : ∀ topic, s.pending topic = []) (symbol : String)
    (short : (storage.lists (redisKeyTrade ++ symbol)).length ≤ 100) :
    s.storage.lists (redisKeyTrade ++ symbol) =
      ((((fetched .trade events).filterMap decodeTrade).filter (·.symbol = symbol)).reverse.map
          Trade.toJson ++ storage.lists (redisKeyTrade ++ symbol)).take 100 := by
  have cell := run_idle_read_topic sorter loc reached idle
    (show MarketTopic.trade.Issues (.pushTrim (redisKeyTrade ++ symbol) .null 0 0) from rfl)
    (show RedisCommand.writes (.pushTrim (redisKeyTrade ++ symbol) .null 0 0)
      (.list (redisKeyTrade ++ symbol)) from decide_eq_true rfl)
  simp only [RedisState.read, CellContents.list.injEq, sendAll_issued_trade] at cell
  rw [cell, handleTradeRecords_trades, foldl_pushTrade _ short]

/-- From a candle list of at most 1000 entries, each maintained list `kline:{symbol}:{interval}`
holds the newest 1000 candles the kline handler closed for it, newest first, ahead of what it
held before the run. -/
theorem run_idle_kline_list (reached : (newProcessor storage).run sorter loc events = some s)
    (idle : ∀ topic, s.pending topic = []) (symbol : String) {interval : String}
    (maintained : interval ∈ klineIntervals)
    (short : (storage.lists (klineKey symbol interval)).length ≤ 1000) :
    s.storage.lists (klineKey symbol interval) =
      ((savedKlines loc (fetched .trade events) symbol interval).reverse.map Kline.toJson ++
        storage.lists (klineKey symbol interval)).take 1000 := by
  have cell := run_idle_read_topic sorter loc reached idle
    (show MarketTopic.trade.Issues (.pushTrim (klineKey symbol interval) .null 0 0) from rfl)
    (show RedisCommand.writes (.pushTrim (klineKey symbol interval) .null 0 0)
      (.list (klineKey symbol interval)) from decide_eq_true rfl)
  simp only [RedisState.read, CellContents.list.injEq, sendAll_issued_trade] at cell
  rw [cell, ((handleTradeRecords_spec loc _ _ KlineHandler.newKlineHandler_owns).2 symbol
    interval maintained), foldl_pushKline _ short]
  rfl

/-- Each channel `market:{symbol}:{type}` has carried, after what it carried before the run, one
message for every record of the symbol its topic's goroutine has handled, in the order fetched:
none lost and none duplicated, whatever the interleaving. -/
theorem run_idle_channel (reached : (newProcessor storage).run sorter loc events = some s)
    (idle : ∀ topic, s.pending topic = []) (topic : MarketTopic) (symbol : String) :
    s.storage.published.filter (·.channel = marketChannel symbol topic.dataType) =
      storage.published.filter (·.channel = marketChannel symbol topic.dataType) ++
        publishedBy sorter topic ((fetched topic events).filter (·.symbol = symbol)) := by
  have cell := run_idle_read_topic sorter loc reached idle
    (show topic.Issues (.publish (marketChannel symbol topic.dataType) .null) from ⟨symbol, rfl⟩)
    (show RedisCommand.writes (.publish (marketChannel symbol topic.dataType) .null)
      (.channel (marketChannel symbol topic.dataType)) from decide_eq_true rfl)
  simp only [RedisState.read, CellContents.channel.injEq, RedisState.published_sendAll,
    List.filter_append, issued_messages] at cell
  rw [cell, publishedBy_filter_channel]

theorem run_idle_channel_sample :
    ∃ s, (newProcessor .empty).run levelMergeSorter (.fixed 0) sampleEvents = some s ∧
      (∀ topic, s.pending topic = []) ∧
      s.storage.published.filter (·.channel = marketChannel "BTCUSDT" dataTypeTrade) =
        RedisState.empty.published.filter (·.channel = marketChannel "BTCUSDT" dataTypeTrade) ++
          publishedBy levelMergeSorter .trade
            ((fetched .trade sampleEvents).filter (·.symbol = "BTCUSDT")) :=
  ⟨_, rfl, fun topic => by cases topic <;> rfl, @run_idle_channel levelMergeSorter (.fixed 0) .empty sampleEvents _ rfl (fun topic => by cases topic <;> rfl) .trade "BTCUSDT"⟩

/-- At every state a run reaches, idle or not, the manager of a symbol holds the latest book the
depth goroutine has fetched for it, both sides sorted, and there is none before the first. -/
theorem run_managers (reached : (newProcessor storage).run sorter loc events = some s)
    (symbol : String) :
    s.managers symbol =
      (latestBook symbol ((fetched .depth events).filterMap decodeDepth)).map
        (DepthManager.ofBook sorter) := by
  rw [((consistent_newProcessor sorter loc storage).run reached).managers]
  have spec := ((handleDepths_spec sorter ((fetched .depth events).filterMap decodeDepth)
    (wellKeyed_newDepthHandler storage)).2 symbol).1
  rw [handleDepths_eq_consume] at spec
  exact spec.trans Option.or_none

/-- At every state a run reaches, a symbol's manager answers `GetBestBid` with a highest-priced
bid of the latest book fetched for the symbol and `GetBestAsk` with a lowest-priced ask, and
with `nil` exactly when that side of the book is empty. -/
theorem run_getBestBid_getBestAsk (reached : (newProcessor storage).run sorter loc events = some s)
    {symbol : String} {m : DepthManager} (found : s.managers symbol = some m) :
    ∃ latest, latestBook symbol ((fetched .depth events).filterMap decodeDepth) = some latest ∧
      (∀ bid, m.getBestBid = some bid →
        bid ∈ latest.bids ∧ ∀ other ∈ latest.bids, other.price ≤ bid.price) ∧
      (∀ ask, m.getBestAsk = some ask →
        ask ∈ latest.asks ∧ ∀ other ∈ latest.asks, ask.price ≤ other.price) ∧
      (m.getBestBid = none ↔ latest.bids = []) ∧ (m.getBestAsk = none ↔ latest.asks = []) := by
  rw [run_managers reached] at found
  obtain ⟨latest, isLatest, rfl⟩ := Option.map_eq_some'.mp found
  exact ⟨latest, isLatest, fun _ => ofBook_getBestBid sorter, fun _ => ofBook_getBestAsk sorter,
    ofBook_getBestBid_eq_none sorter latest, ofBook_getBestAsk_eq_none sorter latest⟩

theorem run_getBestBid_getBestAsk_sample :
    ∃ s m, (newProcessor .empty).run levelMergeSorter (.fixed 0) sampleEvents = some s ∧
      s.managers "BTCUSDT" = some m ∧
      ∃ latest, latestBook "BTCUSDT" ((fetched .depth sampleEvents).filterMap decodeDepth) =
          some latest ∧
        (∀ bid, m.getBestBid = some bid →
          bid ∈ latest.bids ∧ ∀ other ∈ latest.bids, other.price ≤ bid.price) ∧
        (∀ ask, m.getBestAsk = some ask →
          ask ∈ latest.asks ∧ ∀ other ∈ latest.asks, ask.price ≤ other.price) ∧
        (m.getBestBid = none ↔ latest.bids = []) ∧ (m.getBestAsk = none ↔ latest.asks = []) :=
  ⟨_, _, rfl, rfl, @run_getBestBid_getBestAsk levelMergeSorter (.fixed 0) .empty sampleEvents _
    rfl "BTCUSDT" _ rfl⟩

/-- `GetSpread` on a symbol's manager, whose best bid is read at one state of a run and best ask
at a state the run reaches later (with no `UpdateDepth` between them, the same state): the lowest
ask price of the latest book fetched by the later state less the highest bid price of the
latest book fetched by the earlier one, and `0` when either of those sides is empty. -/
theorem run_getSpread (reached : (newProcessor storage).run sorter loc events = some s)
    {later : List ProcessorEvent} {s' : ProcessorState} (continued : s.run sorter loc later = some s')
    {symbol : String} {m m' : DepthManager} (found : s.managers symbol = some m)
    (found' : s'.managers symbol = some m') :
    ∃ first latest, latestBook symbol ((fetched .depth events).filterMap decodeDepth) = some first ∧
      latestBook symbol ((fetched .depth (events ++ later)).filterMap decodeDepth) = some latest ∧
      if first.bids = [] ∨ latest.asks = [] then m.getSpread m' = 0
      else ∃ bid ∈ first.bids, ∃ ask ∈ latest.asks, m.getSpread m' = ask.price - bid.price ∧
        (∀ other ∈ first.bids, other.price ≤ bid.price) ∧
        ∀ other ∈ latest.asks, ask.price ≤ other.price := by
  have reached' : (newProcessor storage).run sorter loc (events ++ later) = some s' := by
    rw [ProcessorState.run_append, reached]
    exact continued
  rw [run_managers reached] at found
  rw [run_managers reached'] at found'
  obtain ⟨first, isFirst, rfl⟩ := Option.map_eq_some'.mp found
  obtain ⟨latest, isLatest, rfl⟩ := Option.map_eq_some'.mp found'
  refine ⟨first, latest, isFirst, isLatest, ?_⟩
  split_ifs with empty
  · rcases empty with noBids | noAsks
    · simp only [DepthManager.getSpread, (ofBook_getBestBid_eq_none sorter first).mpr noBids]
    · simp only [DepthManager.getSpread, (ofBook_getBestAsk_eq_none sorter latest).mpr noAsks]
      split <;> simp_all
  · obtain ⟨bids, asks⟩ := not_or.mp empty
    obtain ⟨bid, bidEq⟩ := Option.ne_none_iff_exists'.mp
      (mt (ofBook_getBestBid_eq_none sorter first).mp bids)
    obtain ⟨ask, askEq⟩ := Option.ne_none_iff_exists'.mp
      (mt (ofBook_getBestAsk_eq_none sorter latest).mp asks)
    obtain ⟨bidMem, highest⟩ := ofBook_getBestBid sorter bidEq
    obtain ⟨askMem, lowest⟩ := ofBook_getBestAsk sorter askEq
    exact ⟨bid, bidMem, ask, askMem, by simp only [DepthManager.getSpread, bidEq, askEq],
      highest, lowest⟩

/-- A book of the next second.  Fetched between the two lock sections of a `GetSpread` on the
sample run's book, it makes the spread `45003 - 44999`, which neither book has. -/
def sampleNextDepth : MarketData :=
  MarketData.roundTrip ⟨exchangeBinance, "BTCUSDT", dataTypeDepth, "", 1000,
    .orderBook ⟨"BTCUSDT", [⟨45002, 1⟩], [⟨45003, 1⟩], 1000⟩⟩

theorem run_getSpread_across_update :
    ∃ s s' m m', (newProcessor .empty).run levelMergeSorter (.fixed 0) sampleEvents = some s ∧
      s.run levelMergeSorter (.fixed 0) [.fetch .depth sampleNextDepth] = some s' ∧
      s.managers "BTCUSDT" = some m ∧ s'.managers "BTCUSDT" = some m' ∧
      ∃ first latest,
        latestBook "BTCUSDT" ((fetched .depth sampleEvents).filterMap decodeDepth) = some first ∧
        latestBook "BTCUSDT" ((fetched .depth (sampleEvents ++ [.fetch .depth sampleNextDepth])).filterMap
          decodeDepth) = some latest ∧
        if first.bids = [] ∨ latest.asks = [] then m.getSpread m' = 0
        else ∃ bid ∈ first.bids, ∃ ask ∈ latest.asks, m.getSpread m' = ask.price - bid.price ∧
          (∀ other ∈ first.bids, other.price ≤ bid.price) ∧
          ∀ other ∈ latest.asks, ask.price ≤ other.price :=
  ⟨_, _, _, _, rfl, rfl, rfl, rfl, @run_getSpread levelMergeSorter (.fixed 0) .empty sampleEvents _
    rfl [.fetch .depth sampleNextDepth] _ rfl "BTCUSDT" _ _ rfl rfl⟩

end Run

end Stored

end Processor

end MarketSystem
