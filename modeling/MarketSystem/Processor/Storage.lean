import MarketSystem.Encoding

/-!
# The Redis storage of the processor

`RedisStorage` writes the latest ticker, the latest book, the recent trades and the closed
candles of each symbol, and publishes tickers, books and trades on the pub/sub bus.  Each key it
writes expires: the ticker hash, the book and the trade list an hour after they were last
written, a candle list after seven days.  A key's time to live is kept in milliseconds beside
it, and `advance` lets time pass, deleting the keys whose time has run out.  Failures of the
Redis commands themselves are left out.
-/

namespace MarketSystem

def redisKeyTicker : String := "ticker:"
def redisKeyDepth : String := "depth:"
def redisKeyKline : String := "kline:"
def redisKeyTrade : String := "trade:"

/-- `time.Hour`, in milliseconds. -/
def hour : Nat := 3600000

/-- A pub/sub message: its channel and its payload as a subscriber decodes it, `none` for a
payload that is not JSON. -/
structure RedisMessage where
  channel : String
  payload : Option Json

/-- One key of one kind, or one channel.  Each key the storage writes holds values of one kind
only, so a key's time to live is kept with its cell. -/
inductive Cell where
  | hash (key : String)
  | string (key : String)
  | list (key : String)
  | channel (name : String)
  deriving DecidableEq

/-- The hashes, strings and lists the storage writes, the messages it has published, and the
time to live of each key in milliseconds (`none` for a key that does not expire). -/
structure RedisState where
  hashes : String → List (String × Json)
  strings : String → Option Json
  lists : String → List Json
  published : List RedisMessage
  ttl : Cell → Option Nat

namespace RedisState

/-- An empty Redis. -/
def empty : RedisState :=
  ⟨fun _ => [], fun _ => none, fun _ => [], [], fun _ => none⟩

/-- `LPUSH key value` followed by `LTRIM key 0 (limit - 1)`. -/
def pushTrim (st : RedisState) (key : String) (value : Json) (limit : Nat) : RedisState :=
  { st with lists := Function.update st.lists key ((value :: st.lists key).take limit) }

/-- `PUBLISH channel payload`. -/
def publish (st : RedisState) (channel : String) (payload : Json) : RedisState :=
  { st with published := st.published ++ [⟨channel, some payload⟩] }

/-- Whether a cell's key is there: Redis deletes a hash or a list once it is empty. -/
def holds (st : RedisState) : Cell → Bool
  | .hash key => !(st.hashes key).isEmpty
  | .string key => (st.strings key).isSome
  | .list key => !(st.lists key).isEmpty
  | .channel _ => false

/-- `EXPIRE` on a cell's key: the key expires `ttl` milliseconds from now.  A key that is not
there is left as it is. -/
def expire (st : RedisState) (cell : Cell) (ttl : Nat) : RedisState :=
  if st.holds cell then { st with ttl := Function.update st.ttl cell (some ttl) } else st

/-- Whether a key whose time to live is `ttl` is still there `elapsed` milliseconds later: Redis
expires a key once the time is past its deadline. -/
def survives (ttl : Option Nat) (elapsed : Nat) : Bool :=
  match ttl with
  | some remaining => elapsed ≤ remaining
  | none => true

/-- `elapsed` milliseconds pass: each key whose time to live runs out is deleted, and the other
keys' times to live shrink by `elapsed`. -/
def advance (st : RedisState) (elapsed : Nat) : RedisState where
  hashes key := if survives (st.ttl (.hash key)) elapsed then st.hashes key else []
  strings key := if survives (st.ttl (.string key)) elapsed then st.strings key else none
  lists key := if survives (st.ttl (.list key)) elapsed then st.lists key else []
  published := st.published
  ttl cell := if survives (st.ttl cell) elapsed then (st.ttl cell).map (· - elapsed) else none

theorem pushTrim_lists (st : RedisState) (key : String) (value : Json) (limit : Nat)
    (key' : String) :
    (st.pushTrim key value limit).lists key' =
      if key' = key then (value :: st.lists key).take limit else st.lists key' := by
  simp only [pushTrim, Function.update_apply]

@[simp]
theorem publish_lists (st : RedisState) (channel : String) (payload : Json) :
    (st.publish channel payload).lists = st.lists :=
  rfl

/-- `EXPIRE` changes no key's contents. -/
theorem expire_contents (st : RedisState) (cell : Cell) (ttl : Nat) :
    (st.expire cell ttl).hashes = st.hashes ∧ (st.expire cell ttl).strings = st.strings ∧
      (st.expire cell ttl).lists = st.lists ∧ (st.expire cell ttl).published = st.published := by
  unfold expire
  split <;> exact ⟨rfl, rfl, rfl, rfl⟩

@[simp]
theorem expire_hashes (st : RedisState) (cell : Cell) (ttl : Nat) :
    (st.expire cell ttl).hashes = st.hashes :=
  (expire_contents st cell ttl).1

@[simp]
theorem expire_strings (st : RedisState) (cell : Cell) (ttl : Nat) :
    (st.expire cell ttl).strings = st.strings :=
  (expire_contents st cell ttl).2.1

@[simp]
theorem expire_lists (st : RedisState) (cell : Cell) (ttl : Nat) :
    (st.expire cell ttl).lists = st.lists :=
  (expire_contents st cell ttl).2.2.1

@[simp]
theorem expire_published (st : RedisState) (cell : Cell) (ttl : Nat) :
    (st.expire cell ttl).published = st.published :=
  (expire_contents st cell ttl).2.2.2

end RedisState

/-- `fmt.Sprintf("%s%s:%s", RedisChannelMarket, symbol, dataType)`, the channel that
`SaveTicker`, `SaveDepth` and `SaveTrade` publish on. -/
def marketChannel (symbol dataType : String) : String :=
  redisChannelMarket ++ symbol ++ ":" ++ dataType

theorem key_append_inj (pre : String) {a b : String} (same : pre ++ a = pre ++ b) :
    a = b :=
  String.ext (List.append_cancel_left (congrArg String.data same))

/-- The symbols of two channels of one data type are equal when the channels are. -/
theorem marketChannel_inj {symbol symbol' dataType : String}
    (same : marketChannel symbol dataType = marketChannel symbol' dataType) : symbol = symbol' := by
  have chars := congrArg String.data same
  simp only [marketChannel, String.data_append, List.append_assoc] at chars
  exact String.ext (List.append_cancel_right (List.append_cancel_left chars))

/-! ## Commands and cells

`SaveTicker`, `SaveDepth`, `SaveTrade` and `SaveKline` each send their commands one after
another, and the processor's consumer goroutines share one client, so the commands of two
goroutines can interleave.  A command changes what at most one *cell* holds: a hash, a string or
a list under one key, or the message sequence of one channel.  What a sequence of commands
leaves in a cell depends only on the commands that write that cell, in their order
(`read_sendAll_filter`); an `EXPIRE` writes no cell's contents, only a key's time to live.
-/

/-- The commands the storage sends: `HSET` of a ticker's fields (each call writes the same
seven, so the hash is replaced; the key keeps its time to live), `EXPIRE`, `SET` with a time to
live, the pipeline of `LPUSH`, `LTRIM` and `EXPIRE` that goes to Redis in one round trip, and
`PUBLISH`. -/
inductive RedisCommand where
  | hset (key : String) (fields : List (String × Json))
  | expire (cell : Cell) (ttl : Nat)
  | set (key : String) (value : Json) (ttl : Nat)
  | pushTrim (key : String) (value : Json) (limit : Nat) (ttl : Nat)
  | publish (channel : String) (payload : Json)

/-- What a cell holds: a channel holds the messages published on it, in order. -/
inductive CellContents where
  | hash (fields : List (String × Json))
  | string (value : Option Json)
  | list (values : List Json)
  | channel (messages : List RedisMessage)

/-- The message a command publishes. -/
def RedisCommand.message : RedisCommand → Option RedisMessage
  | .publish channel payload => some ⟨channel, some payload⟩
  | _ => none

/-- Whether a command changes what a cell holds. -/
def RedisCommand.writes : RedisCommand → Cell → Bool
  | .hset key _, .hash key' => decide (key = key')
  | .set key _ _, .string key' => decide (key = key')
  | .pushTrim key _ _ _, .list key' => decide (key = key')
  | .publish channel _, .channel name => decide (channel = name)
  | _, _ => false

namespace RedisState

/-- The server executing one command. -/
def send (st : RedisState) : RedisCommand → RedisState
  | .hset key fields => { st with hashes := Function.update st.hashes key fields }
  | .expire cell ttl => st.expire cell ttl
  | .set key value ttl =>
      { st with strings := Function.update st.strings key (some value),
                ttl := Function.update st.ttl (.string key) (some ttl) }
  | .pushTrim key value limit ttl => (st.pushTrim key value limit).expire (.list key) ttl
  | .publish channel payload => st.publish channel payload

/-- The server executing commands in order. -/
def sendAll (st : RedisState) (commands : List RedisCommand) : RedisState :=
  commands.foldl send st

/-- The contents of a cell. -/
def read (st : RedisState) : Cell → CellContents
  | .hash key => .hash (st.hashes key)
  | .string key => .string (st.strings key)
  | .list key => .list (st.lists key)
  | .channel name => .channel (st.published.filter (·.channel = name))

@[simp]
theorem sendAll_nil (st : RedisState) : st.sendAll [] = st :=
  rfl

@[simp]
theorem sendAll_cons (st : RedisState) (command : RedisCommand) (commands : List RedisCommand) :
    st.sendAll (command :: commands) = (st.send command).sendAll commands :=
  rfl

theorem sendAll_append (st : RedisState) (first second : List RedisCommand) :
    st.sendAll (first ++ second) = (st.sendAll first).sendAll second :=
  List.foldl_append _ _ _ _

theorem sendAll_append_singleton (st : RedisState) (commands : List RedisCommand)
    (command : RedisCommand) :
    st.sendAll (commands ++ [command]) = (st.sendAll commands).send command := by
  rw [sendAll_append]
  rfl

/-- The messages published by a sequence of commands, in order. -/
theorem published_sendAll (st : RedisState) (commands : List RedisCommand) :
    (st.sendAll commands).published = st.published ++ commands.filterMap RedisCommand.message := by
  induction commands generalizing st with
  | nil => simp
  | cons command commands ih =>
    cases command <;> simp [ih, send, publish, pushTrim, RedisCommand.message]

/-- A command leaves every cell it does not write as it was. -/
theorem read_send_of_not_writes {command : RedisCommand} {cell : Cell}
    (untouched : command.writes cell = false) (st : RedisState) :
    (st.send command).read cell = st.read cell := by
  cases command <;> cases cell <;>
    simp_all [RedisCommand.writes, send, read, pushTrim, publish, Function.update_apply, eq_comm]

/-- What a command leaves in a cell depends only on what the cell held. -/
theorem read_send_congr {st st' : RedisState} {cell : Cell} (same : st.read cell = st'.read cell)
    (command : RedisCommand) : (st.send command).read cell = (st'.send command).read cell := by
  cases command <;> cases cell <;> simp only [send, read, pushTrim, publish, Function.update_apply,
    expire_hashes, expire_strings, expire_lists, expire_published, List.filter_append,
    CellContents.hash.injEq, CellContents.string.injEq, CellContents.list.injEq,
    CellContents.channel.injEq] at same ⊢ <;> (try split_ifs) <;> simp_all

theorem read_sendAll_congr {st st' : RedisState} {cell : Cell}
    (same : st.read cell = st'.read cell) (commands : List RedisCommand) :
    (st.sendAll commands).read cell = (st'.sendAll commands).read cell := by
  induction commands generalizing st st' with
  | nil => exact same
  | cons command commands ih => exact ih (read_send_congr same command)

/-- A cell after a sequence of commands is the cell after the commands that write it. -/
theorem read_sendAll_filter (st : RedisState) (commands : List RedisCommand) (cell : Cell) :
    (st.sendAll commands).read cell =
      (st.sendAll (commands.filter (·.writes cell))).read cell := by
  induction commands generalizing st with
  | nil => rfl
  | cons command commands ih =>
    rw [sendAll_cons, ih, List.filter_cons]
    cases writes : command.writes cell
    · exact read_sendAll_congr (read_send_of_not_writes writes st) _
    · rfl

/-- Two sequences that write a cell with the same commands in the same order leave the same
contents there. -/
theorem read_sendAll_of_filter_eq {first second : List RedisCommand} {cell : Cell}
    (same : first.filter (·.writes cell) = second.filter (·.writes cell)) (st : RedisState) :
    (st.sendAll first).read cell = (st.sendAll second).read cell := by
  rw [read_sendAll_filter, same, ← read_sendAll_filter]

/-- Time passing leaves a cell whose key survives it as it was. -/
theorem read_advance {st : RedisState} {elapsed : Nat} {cell : Cell}
    (lasts : survives (st.ttl cell) elapsed) : (st.advance elapsed).read cell = st.read cell := by
  cases cell <;> simp only [advance, read, lasts, if_true]

end RedisState

/-- The flat hash `SaveTicker` writes at `ticker:{symbol}`: `HSET` writes each value as text,
the `float64` fields as the shortest decimal that reads back as them and the `int64` time
exactly. -/
def tickerHash (ticker : Ticker) : List (String × Json) :=
  [("last_price", .number ticker.lastPrice), ("bid_price", .number ticker.bidPrice),
    ("ask_price", .number ticker.askPrice), ("high_24h", .number ticker.high24h),
    ("low_24h", .number ticker.low24h), ("volume_24h", .number ticker.volume24h),
    ("timestamp", .number ticker.timestamp)]

/-- The commands of `SaveTicker`, each its own round trip: the flat hash at `ticker:{symbol}`,
an hour's time to live for the key, then the ticker on its channel. -/
def tickerCommands (ticker : Ticker) : List RedisCommand :=
  [.hset (redisKeyTicker ++ ticker.symbol) (tickerHash ticker),
    .expire (.hash (redisKeyTicker ++ ticker.symbol)) hour,
    .publish (marketChannel ticker.symbol dataTypeTicker) ticker.toJson]

/-- The commands of `SaveDepth`: the book as a JSON string at `depth:{symbol}` for an hour,
then the book on its channel. -/
def depthCommands (depth : OrderBook) : List RedisCommand :=
  [.set (redisKeyDepth ++ depth.symbol) depth.toJson hour,
    .publish (marketChannel depth.symbol dataTypeDepth) depth.toJson]

/-- The commands of `SaveTrade`: the pipeline that pushes the trade on `trade:{symbol}`, keeps
the newest 100 and gives the key an hour, then the trade on its channel. -/
def tradeCommands (trade : Trade) : List RedisCommand :=
  [.pushTrim (redisKeyTrade ++ trade.symbol) trade.toJson 100 hour,
    .publish (marketChannel trade.symbol dataTypeTrade) trade.toJson]

/-- The command of `SaveKline`: the pipeline that pushes the candle on
`kline:{symbol}:{interval}`, keeps the newest 1000 and gives the key seven days. -/
def klineCommand (kline : Kline) : RedisCommand :=
  .pushTrim (redisKeyKline ++ kline.symbol ++ ":" ++ kline.interval) kline.toJson 1000
    (7 * 24 * hour)

/-- `SaveTicker`. -/
def saveTicker (st : RedisState) (ticker : Ticker) : RedisState :=
  st.sendAll (tickerCommands ticker)

/-- `SaveDepth`. -/
def saveDepth (st : RedisState) (depth : OrderBook) : RedisState :=
  st.sendAll (depthCommands depth)

/-- `SaveTrade`. -/
def saveTrade (st : RedisState) (trade : Trade) : RedisState :=
  st.sendAll (tradeCommands trade)

/-- `SaveKline`. -/
def saveKline (st : RedisState) (kline : Kline) : RedisState :=
  st.send (klineCommand kline)

/-- Every call writes the same seven fields, so the hash is the latest ticker's. -/
@[simp]
theorem saveTicker_hashes (st : RedisState) (ticker : Ticker) :
    (saveTicker st ticker).hashes =
      Function.update st.hashes (redisKeyTicker ++ ticker.symbol) (tickerHash ticker) := by
  simp [saveTicker, tickerCommands, RedisState.send, RedisState.publish]

@[simp]
theorem saveDepth_strings (st : RedisState) (depth : OrderBook) :
    (saveDepth st depth).strings =
      Function.update st.strings (redisKeyDepth ++ depth.symbol) (some depth.toJson) :=
  rfl

@[simp]
theorem saveTrade_lists (st : RedisState) (trade : Trade) :
    (saveTrade st trade).lists = (st.pushTrim (redisKeyTrade ++ trade.symbol) trade.toJson 100).lists := by
  simp [saveTrade, tradeCommands, RedisState.send]

@[simp]
theorem saveKline_lists (st : RedisState) (kline : Kline) :
    (saveKline st kline).lists =
      (st.pushTrim (redisKeyKline ++ kline.symbol ++ ":" ++ kline.interval) kline.toJson 1000).lists := by
  simp [saveKline, klineCommand, RedisState.send]

theorem foldl_saveKline_eq_sendAll (st : RedisState) (klines : List Kline) :
    klines.foldl saveKline st = st.sendAll (klines.map klineCommand) := by
  induction klines generalizing st with
  | nil => rfl
  | cons kline klines ih => exact ih _

end MarketSystem
