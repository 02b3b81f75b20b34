import MarketSystem.Processor.Depth
import MarketSystem.Processor.Kline

/-!
# The processor's consumer goroutines

`Processor.Start` subscribes a handler to each of the ticker, depth and trade topics, and
`KafkaConsumer.Start` runs the loop `consume` of each topic in a goroutine of its own: fetch a
record, decode it, run the topic's handler, commit, and fetch the next.  The three goroutines
share one Redis client.  The depth handler's managers are used by the depth goroutine only, and
the kline handler's aggregators by the trade goroutine only.

`SaveTicker`, `SaveDepth`, `SaveTrade` and `SaveKline` send their commands one after another,
so the commands of the three goroutines interleave in any order.  A state of the processor
therefore records, beside the storage and the two handlers, the commands each goroutine has
still to send for the record it is handling; a run is any sequence of fetches and sends.

The topics write disjoint cells: hashes only for tickers, strings only for books, lists only
for trades and candles, and each topic on the channels of its own data type.  So whatever the
interleaving, once every goroutine has sent its commands Redis holds what the three topics
handled one after another, each by its handler, would leave there (`run_idle_read`).
-/

namespace MarketSystem

namespace Processor

open Adapters

/-- The topics `Processor.Start` subscribes to, one goroutine each. -/
inductive MarketTopic where
  | ticker
  | depth
  | trade
  deriving DecidableEq, Repr

/-- The data type of the channels a topic's handler publishes on. -/
def MarketTopic.dataType : MarketTopic → String
  | .ticker => dataTypeTicker
  | .depth => dataTypeDepth
  | .trade => dataTypeTrade

/-- A channel of `marketChannel` ends with its data type's last character. -/
theorem marketChannel_getLast (symbol dataType : String) :
    (marketChannel symbol dataType).data.getLast? = some (dataType.data.getLast?.getD ':') := by
  simp only [marketChannel, String.data_append, List.getLast?_append]
  cases dataType.data.getLast? <;> rfl

/-- The three topics publish on disjoint channels. -/
theorem MarketTopic.eq_of_marketChannel_eq {topic topic' : MarketTopic} {symbol symbol' : String}
    (same : marketChannel symbol topic.dataType = marketChannel symbol' topic'.dataType) :
    topic = topic' := by
  have last := congrArg (fun channel : String => channel.data.getLast?) same
  simp only [marketChannel_getLast] at last
  cases topic <;> cases topic' <;> first | rfl | exact absurd last (by decide)

/-- The commands a topic's handler sends: hashes and their expiry for tickers, strings for books,
lists for trades and candles, and messages on the channels of the topic's data type. -/
def MarketTopic.Issues (topic : MarketTopic) : RedisCommand → Prop
  | .hset _ _ => topic = .ticker
  | .expire _ _ => topic = .ticker
  | .set _ _ _ => topic = .depth
  | .pushTrim _ _ _ _ => topic = .trade
  | .publish channel _ => ∃ symbol, channel = marketChannel symbol topic.dataType

/-- Two topics' commands never write the same cell. -/
theorem MarketTopic.Issues.unique {topic topic' : MarketTopic} {command command' : RedisCommand}
    {cell : Cell} (issues : topic.Issues command) (issues' : topic'.Issues command')
    (writes : command.writes cell) (writes' : command'.writes cell) : topic = topic' := by
  cases command <;> cases command' <;> cases cell <;>
    simp only [RedisCommand.writes, decide_eq_true_eq, Bool.false_eq_true] at writes writes'
  case publish.publish.channel =>
    obtain ⟨symbol, rfl⟩ := issues
    obtain ⟨symbol', rfl⟩ := issues'
    exact MarketTopic.eq_of_marketChannel_eq (writes.trans writes'.symm)
  all_goals exact issues.trans issues'.symm

/-! ## The handlers, at the level of commands -/

/-- The ticker the ticker topic's handler rebuilds from a record whose payload is a map. -/
def decodeTicker (d : MarketData) : Option Ticker :=
  (payloadObject d).map fun ticker => parseTickerFromMap ticker d.symbol

/-- The book the depth topic's handler rebuilds from a record whose payload is a map. -/
def decodeDepth (d : MarketData) : Option OrderBook :=
  (payloadObject d).map fun depthMap => parseDepthFromMap depthMap d.symbol d.timestamp

/-- The ticker topic's handler: the commands of `SaveTicker`; a record whose payload is not a
map is skipped. -/
def tickerHandler (d : MarketData) : List RedisCommand :=
  match decodeTicker d with
  | some ticker => tickerCommands ticker
  | none => []

section Handlers

variable (sorter : LevelSorter) (loc : Location)

/-- `HandleDepth` at the level of commands: the managers afterwards, and the commands of the
`SaveDepth` of the updated manager's book. -/
def handleDepthCommands (managers : String → Option DepthManager) (depth : OrderBook) :
    (String → Option DepthManager) × List RedisCommand :=
  let manager := ({ (managers depth.symbol).getD (newDepthManager depth.symbol) with
    bids := depth.bids, asks := depth.asks } : DepthManager).sortDepth sorter
  (Function.update managers depth.symbol (some manager),
    depthCommands ⟨manager.symbol, manager.bids, manager.asks, depth.timestamp⟩)

theorem handleDepth_eq_sendAll (h : DepthHandler) (depth : OrderBook) :
    h.handleDepth sorter depth =
      ⟨(handleDepthCommands sorter h.managers depth).1,
        h.storage.sendAll (handleDepthCommands sorter h.managers depth).2⟩ :=
  rfl

/-- The depth topic's handler. -/
def depthHandler (managers : String → Option DepthManager) (d : MarketData) :
    (String → Option DepthManager) × List RedisCommand :=
  match decodeDepth d with
  | some depth => handleDepthCommands sorter managers depth
  | none => (managers, [])

/-- The trade topic's handler: the commands of `SaveTrade`, then the `SaveKline` of each candle
that `HandleTrade` closes. -/
def tradeHandler (h : KlineHandler) (d : MarketData) : KlineHandler × List RedisCommand :=
  match decodeTrade d with
  | some trade =>
      let result := h.handleTrade loc trade
      (result.1, tradeCommands trade ++ result.2.map klineCommand)
  | none => (h, [])

theorem handleTradeRecord_eq_sendAll (p : TradePipeline) (d : MarketData) :
    handleTradeRecord loc p d =
      ⟨p.storage.sendAll (tradeHandler loc p.klineHandler d).2,
        (tradeHandler loc p.klineHandler d).1⟩ := by
  cases decoded : decodeTrade d with
  | none => simp only [handleTradeRecord, tradeHandler, decoded, RedisState.sendAll_nil]
  | some trade =>
    simp only [handleTradeRecord, tradeHandler, decoded, RedisState.sendAll_append,
      foldl_saveKline_eq_sendAll, saveTrade]

end Handlers

/-- The loop `consume` handing `records` to a handler one after another: the handler's state
afterwards and the commands it sent, in order.  A handler's error is logged and the record
committed all the same, so every record is handled once. -/
def consume {σ : Type} (handler : σ → MarketData → σ × List RedisCommand) :
    σ → List MarketData → σ × List RedisCommand
  | state, [] => (state, [])
  | state, d :: records =>
      let handled := handler state d
      let rest := consume handler handled.1 records
      (rest.1, handled.2 ++ rest.2)

theorem consume_append_singleton {σ : Type} (handler : σ → MarketData → σ × List RedisCommand)
    (state : σ) (records : List MarketData) (d : MarketData) :
    consume handler state (records ++ [d]) =
      ((handler (consume handler state records).1 d).1,
        (consume handler state records).2 ++ (handler (consume handler state records).1 d).2) := by
  induction records generalizing state with
  | nil => simp [consume]
  | cons record records ih => simp [consume, ih]

theorem mem_consume {σ : Type} {handler : σ → MarketData → σ × List RedisCommand}
    {P : RedisCommand → Prop} (handles : ∀ state d, ∀ command ∈ (handler state d).2, P command) :
    ∀ (state : σ) (records : List MarketData), ∀ command ∈ (consume handler state records).2,
      P command
  | _, [] => fun _ mem => nomatch mem
  | state, d :: records => fun command mem => by
    rcases List.mem_append.mp mem with first | rest
    · exact handles state d command first
    · exact mem_consume handles _ records command rest

/-- Every command the trade topic's handler sends is a `SaveTrade` command or the `SaveKline`
command of a candle the kline handler closes over the decoded trades. -/
theorem mem_consume_tradeHandler (loc : Location) (records : List MarketData) :
    ∀ (h : KlineHandler), ∀ command ∈ (consume (tradeHandler loc) h records).2,
      (∃ trade, command ∈ tradeCommands trade) ∨
        ∃ k ∈ (h.handleTrades loc (records.filterMap decodeTrade)).2, command = klineCommand k := by
  induction records with
  | nil => intro _ _ mem; cases mem
  | cons d records ih =>
    intro h command mem
    simp only [consume, tradeHandler, List.filterMap_cons] at mem ⊢
    cases decoded : decodeTrade d with
    | none =>
      simp only [decoded, List.nil_append] at mem ⊢
      exact ih h command mem
    | some trade =>
      simp only [decoded, KlineHandler.handleTrades, List.mem_append] at mem ⊢
      rcases mem with (saved | kline) | rest
      · exact .inl ⟨trade, saved⟩
      · obtain ⟨k, saved, rfl⟩ := List.mem_map.mp kline
        exact .inr ⟨k, .inl saved, rfl⟩
      · rcases ih _ command rest with saved | ⟨k, saved, rfl⟩
        · exact .inl saved
        · exact .inr ⟨k, .inr saved, rfl⟩

section Run

variable (sorter : LevelSorter) (loc : Location)

/-- The commands a topic's goroutine sends while it handles `records` from a new processor. -/
def issued : MarketTopic → List MarketData → List RedisCommand
  | .ticker, records => (consume (fun _ d => ((), tickerHandler d)) () records).2
  | .depth, records => (consume (depthHandler sorter) (fun _ => none) records).2
  | .trade, records => (consume (tradeHandler loc) newKlineHandler records).2

theorem issued_issues (topic : MarketTopic) (records : List MarketData) :
    ∀ command ∈ issued sorter loc topic records, topic.Issues command := by
  cases topic
  · refine mem_consume (fun _ d => ?_) _ records
    unfold tickerHandler
    cases decodeTicker d <;> simp [tickerCommands, MarketTopic.Issues]
    exact ⟨_, rfl⟩
  · refine mem_consume (fun _ d => ?_) _ records
    unfold depthHandler
    cases decodeDepth d <;>
      simp [handleDepthCommands, depthCommands, MarketTopic.Issues]
    exact ⟨_, rfl⟩
  · refine mem_consume (fun _ d => ?_) _ records
    unfold tradeHandler
    cases decodeTrade d <;>
      simp [tradeCommands, klineCommand, MarketTopic.Issues]
    exact ⟨_, rfl⟩

/-- The processor: the shared storage, the depth handler's managers, the kline handler, and the
commands each goroutine has still to send for the record it is handling. -/
structure ProcessorState where
  storage : RedisState
  managers : String → Option DepthManager
  klineHandler : KlineHandler
  pending : MarketTopic → List RedisCommand

/-- `NewProcessor` on a Redis holding `storage`, each goroutine waiting for a record. -/
def newProcessor (storage : RedisState) : ProcessorState :=
  ⟨storage, fun _ => none, newKlineHandler, fun _ => []⟩

inductive ProcessorEvent where
  /-- The topic's goroutine fetches and decodes a record and runs its handler, whose commands
  are queued. -/
  | fetch (topic : MarketTopic) (d : MarketData)
  /-- The topic's goroutine sends the next command of its handler. -/
  | send (topic : MarketTopic)

namespace ProcessorState

/-- The commands a topic's handler sends for a record, from the handler's present state. -/
def issue (s : ProcessorState) : MarketTopic → MarketData → List RedisCommand
  | .ticker, d => tickerHandler d
  | .depth, d => (depthHandler sorter s.managers d).2
  | .trade, d => (tradeHandler loc s.klineHandler d).2

/-- The topic's goroutine takes a record: its handler's state moves on and the commands it
sends are queued. -/
def handle (s : ProcessorState) (topic : MarketTopic) (d : MarketData) : ProcessorState :=
  { s with
    managers := if topic = .depth then (depthHandler sorter s.managers d).1 else s.managers
    klineHandler :=
      if topic = .trade then (tradeHandler loc s.klineHandler d).1 else s.klineHandler
    pending := Function.update s.pending topic (s.issue sorter loc topic d) }

/-- A goroutine fetches its next record only once its handler has returned, that is once it
has sent every command for the record before. -/
def step (s : ProcessorState) : ProcessorEvent → Option ProcessorState
  | .fetch topic d =>
      match s.pending topic with
      | [] => some (s.handle sorter loc topic d)
      | _ :: _ => none
  | .send topic =>
      match s.pending topic with
      | [] => none
      | command :: rest =>
          some { s with storage := s.storage.send command,
                        pending := Function.update s.pending topic rest }

def run (s : ProcessorState) : List ProcessorEvent → Option ProcessorState
  | [] => some s
  | event :: events => (s.step sorter loc event).bind (·.run events)

theorem run_append (s : ProcessorState) (first second : List ProcessorEvent) :
    s.run sorter loc (first ++ second) = (s.run sorter loc first).bind (·.run sorter loc second) := by
  induction first generalizing s with
  | nil => rfl
  | cons event first ih =>
    rw [List.cons_append, run, run, Option.bind_assoc]
    simp only [ih]

end ProcessorState

/-- The record an event hands to a topic's goroutine. -/
def ProcessorEvent.fetchedBy (topic : MarketTopic) : ProcessorEvent → Option MarketData
  | .fetch t d => if t = topic then some d else none
  | .send _ => none

/-- The records a run hands to a topic's goroutine, in order. -/
def fetched (topic : MarketTopic) (events : List ProcessorEvent) : List MarketData :=
  events.filterMap (ProcessorEvent.fetchedBy topic)

/-- The commands sent so far, one topic after another. -/
def inTopicOrder (sent : MarketTopic → List RedisCommand) : List RedisCommand :=
  sent .ticker ++ sent .depth ++ sent .trade

/-- What a run from `newProcessor storage` keeps: each handler is as its topic's records made
it; what each goroutine has sent, followed by what it has still to send, is what it issued for
its records; and every cell holds what the commands sent so far, one topic after another, leave
in it. -/
structure Consistent (storage : RedisState) (events : List ProcessorEvent)
    (s : ProcessorState) : Prop where
  managers : s.managers = (consume (depthHandler sorter) (fun _ => none) (fetched .depth events)).1
  klineHandler :
    s.klineHandler = (consume (tradeHandler loc) newKlineHandler (fetched .trade events)).1
  cells : ∃ sent : MarketTopic → List RedisCommand,
    (∀ topic, sent topic ++ s.pending topic = issued sorter loc topic (fetched topic events)) ∧
    ∀ cell, s.storage.read cell = (storage.sendAll (inTopicOrder sent)).read cell

@[simp]
theorem fetched_append (topic : MarketTopic) (events events' : List ProcessorEvent) :
    fetched topic (events ++ events') = fetched topic events ++ fetched topic events' :=
  List.filterMap_append _ _ _

@[simp]
theorem fetched_fetch (topic topic' : MarketTopic) (d : MarketData) :
    fetched topic [.fetch topic' d] = if topic' = topic then [d] else [] := by
  by_cases same : topic' = topic <;> simp [fetched, ProcessorEvent.fetchedBy, same]

@[simp]
theorem fetched_send (topic topic' : MarketTopic) : fetched topic [.send topic'] = [] :=
  rfl

/-- Adding commands to one topic's share adds them at the end of what writes a cell, provided no
other topic has written that cell or the commands do not write it. -/
theorem filter_inTopicOrder_update (sent : MarketTopic → List RedisCommand) (topic : MarketTopic)
    (extra : List RedisCommand) (keep : RedisCommand → Bool)
    (alone : ∀ other, other ≠ topic → (sent other).filter keep = [] ∨ extra.filter keep = []) :
    (inTopicOrder (Function.update sent topic (sent topic ++ extra))).filter keep =
      (inTopicOrder sent).filter keep ++ extra.filter keep := by
  by_cases quiet : extra.filter keep = []
  · cases topic <;> simp [inTopicOrder, Function.update_apply, quiet]
  · have others_quiet := fun other differs => (alone other differs).resolve_right quiet
    cases topic <;> simp [inTopicOrder, Function.update_apply, others_quiet]

namespace Consistent

variable {sorter loc}
variable {storage : RedisState} {events : List ProcessorEvent} {s : ProcessorState}

theorem issued_append_singleton (consistent : Consistent sorter loc storage events s)
    (topic : MarketTopic) (d : MarketData) :
    issued sorter loc topic (fetched topic events ++ [d]) =
      issued sorter loc topic (fetched topic events) ++ s.issue sorter loc topic d := by
  cases topic <;>
    simp only [issued, consume_append_singleton, ProcessorState.issue, consistent.managers,
      consistent.klineHandler]

/-- A fetch: the goroutine's handler moves on by the record and queues what it issues for it. -/
theorem fetch {topic : MarketTopic} {d : MarketData}
    (consistent : Consistent sorter loc storage events s) (idle : s.pending topic = []) :
    Consistent sorter loc storage (events ++ [.fetch topic d]) (s.handle sorter loc topic d) := by
  obtain ⟨sent, queued, cells⟩ := consistent.cells
  refine ⟨?_, ?_, sent, fun other => ?_, cells⟩
  · by_cases depth : topic = .depth
    · subst depth
      simp [ProcessorState.handle, consume_append_singleton, consistent.managers]
    · simp [ProcessorState.handle, depth, consistent.managers]
  · by_cases trade : topic = .trade
    · subst trade
      simp [ProcessorState.handle, consume_append_singleton, consistent.klineHandler]
    · simp [ProcessorState.handle, trade, consistent.klineHandler]
  · by_cases same : other = topic
    · subst same
      have previous := queued other
      rw [idle, List.append_nil] at previous
      simp only [ProcessorState.handle, Function.update_same, fetched_append, fetched_fetch,
        if_true, previous, consistent.issued_append_singleton]
    · simp only [ProcessorState.handle, Function.update_noteq same, fetched_append, fetched_fetch,
        if_neg (Ne.symm same), List.append_nil, queued other]

/-- A send: the command joins its topic's share of what has been sent, and no other topic's
share writes the cells it writes. -/
theorem send {topic : MarketTopic} {command : RedisCommand} {rest : List RedisCommand}
    (consistent : Consistent sorter loc storage events s)
    (next : s.pending topic = command :: rest) :
    Consistent sorter loc storage (events ++ [.send topic])
      { s with storage := s.storage.send command,
               pending := Function.update s.pending topic rest } := by
  obtain ⟨sent, queued, cells⟩ := consistent.cells
  have issues : topic.Issues command :=
    issued_issues sorter loc topic _ command (by rw [← queued topic, next]; simp)
  refine ⟨by simpa using consistent.managers, by simpa using consistent.klineHandler,
    Function.update sent topic (sent topic ++ [command]), fun other => ?_, fun cell => ?_⟩
  · by_cases same : other = topic
    · subst same
      simp [← queued other, next]
    · simp [Function.update_noteq same, queued other]
  · rw [RedisState.read_send_congr (cells cell), ← RedisState.sendAll_append_singleton]
    apply RedisState.read_sendAll_of_filter_eq
    rw [List.filter_append, filter_inTopicOrder_update]
    intro other differs
    cases writes : command.writes cell
    · exact .inr (by simp [writes])
    · refine .inl (List.filter_eq_nil_iff.mpr fun other_command mem writes' => differs ?_)
      have issued_other := issued_issues sorter loc other _ other_command
        (by rw [← queued other]; exact List.mem_append_left _ mem)
      exact issued_other.unique issues writes' writes

theorem step {event : ProcessorEvent} {s' : ProcessorState}
    (consistent : Consistent sorter loc storage events s)
    (stepped : s.step sorter loc event = some s') :
    Consistent sorter loc storage (events ++ [event]) s' := by
  cases event with
  | fetch topic d =>
    simp only [ProcessorState.step] at stepped
    split at stepped
    · cases stepped
      exact consistent.fetch ‹_›
    · cases stepped
  | send topic =>
    simp only [ProcessorState.step] at stepped
    split at stepped
    · cases stepped
    · cases stepped
      exact consistent.send ‹_›

theorem run {events' : List ProcessorEvent} {s' : ProcessorState}
    (consistent : Consistent sorter loc storage events s)
    (reached : s.run sorter loc events' = some s') :
    Consistent sorter loc storage (events ++ events') s' := by
  induction events' generalizing events s with
  | nil =>
    cases reached
    simpa using consistent
  | cons event events' ih =>
    obtain ⟨next, stepped, rest⟩ := Option.bind_eq_some.mp reached
    simpa using ih (consistent.step stepped) rest

end Consistent

theorem consistent_newProcessor (storage : RedisState) :
    Consistent sorter loc storage [] (newProcessor storage) :=
  ⟨rfl, rfl, ⟨fun _ => [], fun topic => by cases topic <;> rfl, fun _ => rfl⟩⟩

/-- Whatever the interleaving of the three goroutines' commands, once each has sent every command
for its last record, every hash, string, list and channel of Redis holds what the commands each
goroutine issued for its records, sent one topic after another, leave there. -/
theorem run_idle_read {storage : RedisState} {events : List ProcessorEvent} {s : ProcessorState}
    (reached : (newProcessor storage).run sorter loc events = some s)
    (idle : ∀ topic, s.pending topic = []) (cell : Cell) :
    s.storage.read cell =
      (storage.sendAll (issued sorter loc .ticker (fetched .ticker events) ++
        issued sorter loc .depth (fetched .depth events) ++
        issued sorter loc .trade (fetched .trade events))).read cell := by
  obtain ⟨sent, queued, cells⟩ := ((consistent_newProcessor sorter loc storage).run reached).cells
  have all_sent : ∀ topic, sent topic = issued sorter loc topic (fetched topic events) := fun topic => by
    simpa [idle topic] using queued topic
  rw [cells cell]
  simp only [inTopicOrder, all_sent]

/-! ## The handler-level model, one topic after another -/

/-- The three topics handled one after another, each by its handler-level model: every ticker
saved in turn, then the books through a new depth handler, then the trades through a new
pipeline. -/
def processSequentially (storage : RedisState) (tickers books trades : List MarketData) :
    RedisState :=
  let afterTickers := (tickers.filterMap decodeTicker).foldl saveTicker storage
  let afterBooks :=
    ((newDepthHandler afterTickers).handleDepths sorter (books.filterMap decodeDepth)).storage
  (handleTradeRecords loc ⟨afterBooks, newKlineHandler⟩ trades).storage

theorem sendAll_issued_ticker (st : RedisState) (records : List MarketData) :
    st.sendAll (issued sorter loc .ticker records) =
      (records.filterMap decodeTicker).foldl saveTicker st := by
  induction records generalizing st with
  | nil => rfl
  | cons d records ih =>
    simp only [issued, consume, RedisState.sendAll_append] at ih ⊢
    rw [ih, List.filterMap_cons, tickerHandler]
    cases decodeTicker d <;> rfl

theorem handleDepths_eq_consume (records : List MarketData) :
    ∀ h : DepthHandler, h.handleDepths sorter (records.filterMap decodeDepth) =
      ⟨(consume (depthHandler sorter) h.managers records).1,
        h.storage.sendAll (consume (depthHandler sorter) h.managers records).2⟩ := by
  induction records with
  | nil => intro h; rfl
  | cons d records ih =>
    intro h
    rw [List.filterMap_cons]
    cases decoded : decodeDepth d with
    | none => simpa [consume, depthHandler, decoded] using ih h
    | some depth =>
      simp only [DepthHandler.handleDepths, List.foldl_cons] at ih ⊢
      rw [ih, handleDepth_eq_sendAll]
      simp [consume, depthHandler, decoded, RedisState.sendAll_append]

theorem handleTradeRecords_eq_consume (records : List MarketData) :
    ∀ p : TradePipeline, handleTradeRecords loc p records =
      ⟨p.storage.sendAll (consume (tradeHandler loc) p.klineHandler records).2,
        (consume (tradeHandler loc) p.klineHandler records).1⟩ := by
  induction records with
  | nil => intro p; rfl
  | cons d records ih =>
    intro p
    simp only [handleTradeRecords, List.foldl_cons] at ih ⊢
    rw [ih, handleTradeRecord_eq_sendAll]
    simp [consume, RedisState.sendAll_append]

theorem sendAll_issued_depth (st : RedisState) (records : List MarketData) :
    st.sendAll (issued sorter loc .depth records) =
      ((newDepthHandler st).handleDepths sorter (records.filterMap decodeDepth)).storage := by
  rw [handleDepths_eq_consume]
  rfl

theorem sendAll_issued_trade (st : RedisState) (records : List MarketData) :
    st.sendAll (issued sorter loc .trade records) =
      (handleTradeRecords loc ⟨st, newKlineHandler⟩ records).storage := by
  rw [handleTradeRecords_eq_consume]
  rfl

/-- The commands of the three topics sent one topic after another are the handler-level model
run one topic after another. -/
theorem sendAll_issued_eq_processSequentially (storage : RedisState)
    (tickers books trades : List MarketData) :
    storage.sendAll (issued sorter loc .ticker tickers ++ issued sorter loc .depth books ++
        issued sorter loc .trade trades) =
      processSequentially sorter loc storage tickers books trades := by
  rw [RedisState.sendAll_append, RedisState.sendAll_append, sendAll_issued_ticker,
    sendAll_issued_depth, sendAll_issued_trade]
  rfl

/-! ## A sample run -/

/-- `sort.Slice` on price levels as a merge sort, which meets the contract. -/
def levelMergeSorter : LevelSorter where
  sort less levels := levels.mergeSort fun a b => !less b a
  perm less levels := List.mergeSort_perm levels _
  sortedAsc levels := by
    have sorted := @List.sorted_mergeSort _
      (fun a b : PriceLevel => !decide (b.price < a.price))
      (by simp only [Bool.not_eq_true', decide_eq_false_iff_not, not_lt]
          exact fun _ _ _ => le_trans)
      (by intro a b
          simp only [Bool.or_eq_true, Bool.not_eq_true', decide_eq_false_iff_not, not_lt]
          exact le_total _ _)
      levels
    simpa only [Bool.not_eq_true', decide_eq_false_iff_not, not_lt] using sorted
  sortedDesc levels := by
    have sorted := @List.sorted_mergeSort _
      (fun a b : PriceLevel => !decide (b.price > a.price))
      (by simp only [Bool.not_eq_true', decide_eq_false_iff_not, gt_iff_lt, not_lt]
          exact fun _ _ _ first second => le_trans second first)
      (by intro a b
          simp only [Bool.or_eq_true, Bool.not_eq_true', decide_eq_false_iff_not, gt_iff_lt,
            not_lt]
          exact le_total _ _)
      levels
    simpa only [Bool.not_eq_true', decide_eq_false_iff_not, gt_iff_lt, not_lt] using sorted

/-- A ticker of the collector, as the processor consumes it. -/
def sampleTicker : MarketData :=
  MarketData.roundTrip ⟨exchangeBinance, "BTCUSDT", dataTypeTicker, "", 0,
    .ticker ⟨"BTCUSDT", 45000, 44999, 45001, 46000, 44000, 10, 0⟩⟩

/-- A book of the collector, as the processor consumes it. -/
def sampleDepth : MarketData :=
  MarketData.roundTrip ⟨exchangeBinance, "BTCUSDT", dataTypeDepth, "", 0,
    .orderBook ⟨"BTCUSDT", [⟨44998, 2⟩, ⟨44999, 1⟩], [⟨45001, 1⟩], 0⟩⟩

/-- A trade of the collector, as the processor consumes it. -/
def sampleTrade : MarketData :=
  MarketData.roundTrip ⟨exchangeBinance, "BTCUSDT", dataTypeTrade, "", 0,
    .trade ⟨"BTCUSDT", "1", 45000, 1, sideBuy, 0⟩⟩

/-- A trade of the next minute, which closes the first minute's candle. -/
def sampleLaterTrade : MarketData :=
  MarketData.roundTrip ⟨exchangeBinance, "BTCUSDT", dataTypeTrade, "", 60000,
    .trade ⟨"BTCUSDT", "2", 45010, 2, sideSell, 60000⟩⟩

/-- Each goroutine handling one record, their commands interleaved. -/
def sampleEvents : List ProcessorEvent :=
  [.fetch .ticker sampleTicker, .fetch .depth sampleDepth, .send .ticker,
    .fetch .trade sampleTrade, .send .depth, .send .trade, .send .ticker, .send .trade,
    .send .depth, .send .ticker]

/-- The sample run followed by a trade of the next minute: the trade goroutine sends its
`SaveTrade` and the `SaveKline` of the first minute's candle. -/
def sampleCandleEvents : List ProcessorEvent :=
  sampleEvents ++ [.fetch .trade sampleLaterTrade, .send .trade, .send .trade, .send .trade]

/-- Whatever the interleaving of the three goroutines' commands, once each goroutine has sent
every command for its last record, every hash, string, list and channel of Redis holds what the
handler-level model leaves there when it handles the ticker records, then the book records,
then the trade records, each topic's in the order its goroutine fetched them. -/
theorem run_idle_read_sequential {storage : RedisState} {events : List ProcessorEvent}
    {s : ProcessorState} (reached : (newProcessor storage).run sorter loc events = some s)
    (idle : ∀ topic, s.pending topic = []) (cell : Cell) :
    s.storage.read cell =
      (processSequentially sorter loc storage (fetched .ticker events) (fetched .depth events)
        (fetched .trade events)).read cell := by
  rw [run_idle_read sorter loc reached idle, sendAll_issued_eq_processSequentially]

theorem run_idle_read_sequential_sample :
    ∃ s, (newProcessor .empty).run levelMergeSorter (.fixed 0) sampleEvents = some s ∧
      (∀ topic, s.pending topic = []) ∧ ∀ cell, s.storage.read cell =
        (processSequentially levelMergeSorter (.fixed 0) .empty (fetched .ticker sampleEvents)
          (fetched .depth sampleEvents) (fetched .trade sampleEvents)).read cell :=
  ⟨_, rfl, fun topic => by cases topic <;> rfl,
    run_idle_read_sequential levelMergeSorter (.fixed 0) rfl fun topic => by cases topic <;> rfl⟩

/-- A cell that one topic's handler can write holds, after the commands of all three topics,
what that topic's commands alone leave there. -/
theorem read_issued_of_issues {topic : MarketTopic} {witness : RedisCommand} {cell : Cell}
    (issues : topic.Issues witness) (writes : witness.writes cell) (st : RedisState)
    (records : MarketTopic → List MarketData) :
    (st.sendAll (issued sorter loc .ticker (records .ticker) ++
        issued sorter loc .depth (records .depth) ++ issued sorter loc .trade (records .trade))).read
        cell =
      (st.sendAll (issued sorter loc topic (records topic))).read cell := by
  apply RedisState.read_sendAll_of_filter_eq
  have quiet : ∀ other, other ≠ topic →
      (issued sorter loc other (records other)).filter (·.writes cell) = [] := fun other differs =>
    List.filter_eq_nil_iff.mpr fun command mem writes' =>
      differs ((issued_issues sorter loc other _ command mem).unique issues writes' writes)
  cases topic <;> simp [List.filter_append, quiet]

/-- After a run in which every goroutine has sent its commands, a cell that one topic's handler
can write holds what that topic's records alone, handled in the order fetched, leave there. -/
theorem run_idle_read_topic {storage : RedisState} {events : List ProcessorEvent}
    {s : ProcessorState} (reached : (newProcessor storage).run sorter loc events = some s)
    (idle : ∀ topic, s.pending topic = []) {topic : MarketTopic} {witness : RedisCommand}
    {cell : Cell} (issues : topic.Issues witness) (writes : witness.writes cell) :
    s.storage.read cell =
      (storage.sendAll (issued sorter loc topic (fetched topic events))).read cell := by
  rw [run_idle_read sorter loc reached idle]
  exact read_issued_of_issues sorter loc issues writes storage (fetched · events)

/-- A cell that no command issued for the run's records writes holds, at every state the run
reaches, idle or not, what it held before the run. -/
theorem run_read_of_not_writes {storage : RedisState} {events : List ProcessorEvent}
    {s : ProcessorState} (reached : (newProcessor storage).run sorter loc events = some s)
    (cell : Cell) (untouched : ∀ topic, ∀ command ∈ issued sorter loc topic (fetched topic events),
      command.writes cell = false) :
    s.storage.read cell = storage.read cell := by
  obtain ⟨sent, queued, cells⟩ := ((consistent_newProcessor sorter loc storage).run reached).cells
  simp only [List.nil_append] at queued
  have quiet : ∀ topic, (sent topic).filter (·.writes cell) = [] := fun topic =>
    List.filter_eq_nil_iff.mpr fun command mem => by
      simp [untouched topic command (by rw [← queued topic]; exact List.mem_append_left _ mem)]
  rw [cells cell, RedisState.read_sendAll_filter]
  simp [inTopicOrder, List.filter_append, quiet]

end Run

end Processor

end MarketSystem
