import MarketSystem.Common.Fmt
import MarketSystem.Encoding

/-!
# The exchange adapters

Each adapter turns what it receives into `*models.MarketData` records and hands them to its
`MessageHandler`.  `BinanceAdapter` and `OKXAdapter` decode a WebSocket frame with
`json.Unmarshal` into `map[string]interface{}` and dispatch on the event type or the channel;
`InternalAdapter` decodes the body of an HTTP `POST` into a struct.  A frame is represented by
the value it decodes to: a frame that is not a JSON object behaves like an object without the
keys the adapters look for, so both produce nothing.  `utils.GetCurrentTimestamp()` is the
reading `now`.

Binance's `handleMessage` and `parseKline` use unchecked type assertions; a failed one panics
the reader goroutine, and the model returns the panic's message as an error.
-/

namespace MarketSystem

namespace Adapters

/-! ## Helpers shared by the venue adapters -/

/-- `parseFloat`: a number as it is, a string through `fmt.Sscanf` with `%f`, anything else `0`. -/
def parseFloat : Option Json → ℚ
  | some (.number x) => x
  | some (.string s) => Fmt.scanFloat s
  | _ => 0

/-- `parsePriceLevels`: the items that are arrays of at least two values, read as price and
amount; anything else is no levels. -/
def parsePriceLevels : Option Json → List PriceLevel
  | some (.array items) =>
      items.filterMap fun
        | .array (price :: amount :: _) =>
            some ⟨parseFloat (some price), parseFloat (some amount)⟩
        | _ => none
  | _ => []

/-- `strings.HasPrefix(s, prefix)`. -/
def hasPrefix (s pre : String) : Bool :=
  pre.data.isPrefixOf s.data

/-- `strings.ToUpper`, on the ASCII letters symbols are spelled with. -/
def toUpper (s : String) : String :=
  ⟨s.data.map Char.toUpper⟩

/-- Go's name for the dynamic type of a decoded JSON value. -/
def dynamicType : Option Json → String
  | none | some .null => "nil"
  | some (.bool _) => "bool"
  | some (.number _) => "float64"
  | some (.string _) => "string"
  | some (.array _) => "[]interface \x7b\x7d"
  | some (.object _) => "map[string]interface \x7b\x7d"

/-- An unchecked assertion `v.(T)`: the value, or the runtime's panic message. -/
def assertType {α : Type} (read : Option Json → Option α) (expected : String)
    (v : Option Json) : Except String α :=
  match read v with
  | some x => .ok x
  | none => .error ("interface conversion: interface \x7b\x7d is " ++ dynamicType v ++ ", not " ++
      expected)

/-- `v.(string)`. -/
def assertString : Option Json → Except String String :=
  assertType Json.asString "string"

/-- `v.(float64)`. -/
def assertFloat : Option Json → Except String ℚ :=
  assertType Json.asNumber "float64"

/-- `v.(map[string]interface{})`. -/
def assertObject : Option Json → Except String Json :=
  assertType Json.asObject "map[string]interface \x7b\x7d"

/-! ## `BinanceAdapter` -/

namespace BinanceAdapter

/-- `parseTicker`; the record's `Source` is left unset. -/
def parseTicker (raw : Json) (symbol : String) (timestamp : Int) : MarketData where
  exchange := exchangeBinance
  symbol := symbol
  type := dataTypeTicker
  source := ""
  timestamp := timestamp
  data := .ticker
    { symbol := symbol
      lastPrice := parseFloat (raw.field "c")
      bidPrice := parseFloat (raw.field "b")
      askPrice := parseFloat (raw.field "a")
      high24h := parseFloat (raw.field "h")
      low24h := parseFloat (raw.field "l")
      volume24h := parseFloat (raw.field "v")
      timestamp := timestamp }

/-- `parseDepth`; the record's `Source` is left unset. -/
def parseDepth (raw : Json) (symbol : String) (timestamp : Int) : MarketData where
  exchange := exchangeBinance
  symbol := symbol
  type := dataTypeDepth
  source := ""
  timestamp := timestamp
  data := .orderBook ⟨symbol, parsePriceLevels (raw.field "b"), parsePriceLevels (raw.field "a"),
    timestamp⟩

/-- `parseTrade`: the trade keeps the venue's trade time `T` when it is a number, the record the
reading `timestamp`; the trade id is `fmt.Sprintf("%v", raw["t"])`. -/
def parseTrade (raw : Json) (symbol : String) (timestamp : Int) : MarketData :=
  let side := if Json.asBool (raw.field "m") = some true then sideBuy else sideSell
  let ts := ((Json.asNumber (raw.field "T")).map int64OfFloat).getD timestamp
  { exchange := exchangeBinance
    symbol := symbol
    type := dataTypeTrade
    source := ""
    timestamp := timestamp
    data := .trade
      { symbol := symbol
        tradeId := Fmt.formatField (raw.field "t")
        price := parseFloat (raw.field "p")
        amount := parseFloat (raw.field "q")
        side := side
        timestamp := ts } }

/-- `parseKline`, whose assertions on `k`, `i`, `t`, `T` and `n` are unchecked. -/
def parseKline (raw : Json) (symbol : String) (timestamp : Int) : Except String MarketData := do
  let k ← assertObject (raw.field "k")
  let interval ← assertString (k.field "i")
  let openTime ← assertFloat (k.field "t")
  let closeTime ← assertFloat (k.field "T")
  let tradeNum ← assertFloat (k.field "n")
  pure
    { exchange := exchangeBinance
      symbol := symbol
      type := dataTypeKline
      source := ""
      timestamp := timestamp
      data := .kline
        { symbol := symbol
          interval := interval
          openTime := int64OfFloat openTime
          closeTime := int64OfFloat closeTime
          open_ := parseFloat (k.field "o")
          high := parseFloat (k.field "h")
          low := parseFloat (k.field "l")
          close := parseFloat (k.field "c")
          volume := parseFloat (k.field "v")
          quoteVol := parseFloat (k.field "q")
          tradeNum := int64OfFloat tradeNum } }

/-- `handleMessage`: the record handed to the handler, if any.  Subscription responses and
frames without a string event type are dropped; the symbol `s` is asserted to be a string for
every event type, known or not. -/
def handleMessage (now : Int) (rawMsg : Json) : Except String (Option MarketData) :=
  if (rawMsg.field "result").isSome then .ok none
  else
    match Json.asString (rawMsg.field "e") with
    | none => .ok none
    | some eventType => do
        let symbol := toUpper (← assertString (rawMsg.field "s"))
        match eventType with
        | "24hrTicker" => pure (some (parseTicker rawMsg symbol now))
        | "depthUpdate" => pure (some (parseDepth rawMsg symbol now))
        | "trade" => pure (some (parseTrade rawMsg symbol now))
        | "kline" => some <$> parseKline rawMsg symbol now
        | _ => pure none

/-- `{"e":"trade"}`: a trade event without its symbol. -/
def tradeWithoutSymbol : Json :=
  .object [("e", .string "trade")]

/-- `{"e":"kline","s":"BTCUSDT"}`: a candle event without its candle. -/
def klineWithoutCandle : Json :=
  .object [("e", .string "kline"), ("s", .string "BTCUSDT")]

theorem handleMessage_panics :
    handleMessage 0 tradeWithoutSymbol =
        .error "interface conversion: interface \x7b\x7d is nil, not string" ∧
      handleMessage 0 klineWithoutCandle =
        .error "interface conversion: interface \x7b\x7d is nil, not map[string]interface \x7b\x7d" :=
  ⟨rfl, rfl⟩

end BinanceAdapter

/-! ## `OKXAdapter` -/

namespace OKXAdapter

/-- `parseSymbol`: `strings.ReplaceAll(instId, "-", "")`. -/
def parseSymbol (instId : String) : String :=
  ⟨instId.data.filter (· ≠ '-')⟩

/-- `parseTicker`; the record's `Source` is left unset. -/
def parseTicker (raw : Json) (symbol : String) (timestamp : Int) : MarketData where
  exchange := exchangeOKX
  symbol := symbol
  type := dataTypeTicker
  source := ""
  timestamp := timestamp
  data := .ticker
    { symbol := symbol
      lastPrice := parseFloat (raw.field "last")
      bidPrice := parseFloat (raw.field "bidPx")
      askPrice := parseFloat (raw.field "askPx")
      high24h := parseFloat (raw.field "high24h")
      low24h := parseFloat (raw.field "low24h")
      volume24h := parseFloat (raw.field "vol24h")
      timestamp := timestamp }

/-- `parseDepth`; the record's `Source` is left unset. -/
def parseDepth (raw : Json) (symbol : String) (timestamp : Int) : MarketData where
  exchange := exchangeOKX
  symbol := symbol
  type := dataTypeDepth
  source := ""
  timestamp := timestamp
  data := .orderBook ⟨symbol, parsePriceLevels (raw.field "bids"),
    parsePriceLevels (raw.field "asks"), timestamp⟩

/-- `parseTrade`: the trade time is `int64(parseFloat(raw["ts"]))`. -/
def parseTrade (raw : Json) (symbol : String) (timestamp : Int) : MarketData :=
  let side := if Json.asString (raw.field "side") = some "buy" then sideBuy else sideSell
  { exchange := exchangeOKX
    symbol := symbol
    type := dataTypeTrade
    source := ""
    timestamp := timestamp
    data := .trade
      { symbol := symbol
        tradeId := Fmt.formatField (raw.field "tradeId")
        price := parseFloat (raw.field "px")
        amount := parseFloat (raw.field "sz")
        side := side
        timestamp := int64OfFloat (parseFloat (raw.field "ts")) } }

/-- `parseKline`: a candle from the item's own fields, unless the item carries a `data` array of
at least six values, which gives no record. -/
def parseKline (raw : Json) (symbol channel : String) (timestamp : Int) : Option MarketData :=
  let interval := if hasPrefix channel "candle" then String.mk (channel.data.drop 6) else "1m"
  let openTime := int64OfFloat (parseFloat (raw.field "ts"))
  let fromFields : Bool := match Json.asArray (raw.field "data") with
    | some dataArr => dataArr.length < 6
    | none => true
  if fromFields then
    some
      { exchange := exchangeOKX
        symbol := symbol
        type := dataTypeKline
        source := ""
        timestamp := timestamp
        data := .kline
          { symbol := symbol
            interval := interval
            openTime := openTime
            closeTime := wrapInt64 (openTime + 60000)
            open_ := parseFloat (raw.field "o")
            high := parseFloat (raw.field "h")
            low := parseFloat (raw.field "l")
            close := parseFloat (raw.field "c")
            volume := parseFloat (raw.field "vol")
            quoteVol := parseFloat (raw.field "volCcy")
            tradeNum := 0 } }
  else none

/-- The `switch` of `handleMessage` on the prefix of the channel. -/
def dispatch (now : Int) (channel : String) (dataItem : Json) (symbol : String) :
    Option MarketData :=
  if hasPrefix channel "tickers" then some (parseTicker dataItem symbol now)
  else if hasPrefix channel "books" then some (parseDepth dataItem symbol now)
  else if hasPrefix channel "trades" then some (parseTrade dataItem symbol now)
  else if hasPrefix channel "candle" then parseKline dataItem symbol channel now
  else none

/-- `handleMessage`: the first item of `data`, dispatched on the prefix of the channel.  Only
the events `subscribe` and `error` are dropped as such; every assertion here is checked. -/
def handleMessage (now : Int) (rawMsg : Json) : Option MarketData :=
  let event := Json.asString (rawMsg.field "event")
  if event = some "subscribe" ∨ event = some "error" then none
  else do
    let arg ← Json.asObject (rawMsg.field "arg")
    let channel ← Json.asString (arg.field "channel")
    let data ← Json.asArray (rawMsg.field "data")
    let dataItem ← Json.asObject data.head?
    let instId ← Json.asString (arg.field "instId")
    dispatch now channel dataItem (parseSymbol instId)

/-- A data frame is dispatched on the first item of its `data` array alone: whatever items
follow it, the frame hands the handler at most the one record of that item. -/
theorem handleMessage_data_cons {now : Int} {rawMsg : Json} {argFields : List (String × Json)}
    {channel instId : String} {itemFields : List (String × Json)} {rest : List Json}
    (subscribeAck : Json.asString (rawMsg.field "event") ≠ some "subscribe")
    (errorEvent : Json.asString (rawMsg.field "event") ≠ some "error")
    (arg : rawMsg.field "arg" = some (.object argFields))
    (named : (Json.object argFields).field "channel" = some (.string channel))
    (instrument : (Json.object argFields).field "instId" = some (.string instId))
    (data : rawMsg.field "data" = some (.array (.object itemFields :: rest))) :
    handleMessage now rawMsg = dispatch now channel (.object itemFields) (parseSymbol instId) := by
  have dataFrame : ¬(Json.asString (rawMsg.field "event") = some "subscribe" ∨
      Json.asString (rawMsg.field "event") = some "error") := by
    simp only [subscribeAck, errorEvent, or_self, not_false_eq_true]
  rw [handleMessage, if_neg dataFrame]
  simp [arg, named, instrument, data, Json.asObject, Json.asString, Json.asArray]

theorem dispatch_trades (now : Int) (item : Json) (symbol : String) :
    dispatch now "trades" item symbol = some (parseTrade item symbol now) :=
  rfl

/-- A trade item of the `trades` channel. -/
def okxTrade (tradeId : String) (px : ℚ) : Json :=
  .object [("instId", .string "BTC-USDT"), ("tradeId", .string tradeId), ("px", .number px),
    ("sz", .number 1), ("side", .string "buy"), ("ts", .number 1700000000000)]

/-- A `trades` frame that batches two trades. -/
def twoTradesFrame : Json :=
  .object [("arg", .object [("channel", .string "trades"), ("instId", .string "BTC-USDT")]),
    ("data", .array [okxTrade "1" 45000, okxTrade "2" 45001])]

theorem batched_trades_frame_one_record :
    ∃ t, handleMessage 0 twoTradesFrame =
        some ⟨exchangeOKX, "BTCUSDT", dataTypeTrade, "", 0, .trade t⟩ ∧ t.tradeId = "1" := by
  rw [@handleMessage_data_cons 0 twoTradesFrame _ "trades" "BTC-USDT" _ _ (by decide) (by decide)
    rfl rfl rfl rfl, dispatch_trades]
  exact ⟨_, rfl, rfl⟩

end OKXAdapter

/-! ## `InternalAdapter` -/

namespace InternalAdapter

/-- The fields of `models.InternalTradeMessage` the adapter reads. -/
structure InternalTradeMessage where
  symbol : String
  tradeId : Int
  price : ℚ
  amount : ℚ
  side : String
  timestamp : Int
  deriving DecidableEq, Repr

/-- The fields of `models.InternalDepthMessage` the adapter reads. -/
structure InternalDepthMessage where
  symbol : String
  bids : List PriceLevel
  asks : List PriceLevel
  timestamp : Int
  deriving DecidableEq, Repr

/-- What a handler answers: `http.Error` with a status and a message, or the JSON body
`{"code": 0, "msg": "success"}`. -/
inductive Response where
  | error (status : Nat) (message : String)
  | success
  deriving DecidableEq, Repr

/-- One request to a handler: the answer, and the record handed to the message handler. -/
structure Handled where
  response : Response
  record : Option MarketData

/-- The shape shared by `handleTrade`, `handleDepth` and `handleTicker`: only `POST` is
accepted, a body that does not decode (`none`) is refused, and a decoded message becomes one
record. -/
def handlePost {α : Type} (toRecord : α → MarketData) (method : String) (body : Option α) :
    Handled :=
  if method ≠ "POST" then ⟨.error 405 "Method not allowed", none⟩
  else
    match body with
    | none => ⟨.error 400 "Invalid request body", none⟩
    | some message => ⟨.success, some (toRecord message)⟩

/-- The record `handleTrade` builds: a `*models.Trade` tagged `internal`, with the trade id
printed by `fmt.Sprintf("%d")` and the envelope stamped with the trade's own time. -/
def tradeRecord (trade : InternalTradeMessage) : MarketData where
  exchange := exchangeInternal
  symbol := trade.symbol
  type := dataTypeTrade
  source := sourceInternal
  timestamp := trade.timestamp
  data := .trade ⟨trade.symbol, toString trade.tradeId, trade.price, trade.amount, trade.side,
    trade.timestamp⟩

/-- The record `handleDepth` builds: a `*models.OrderBook` tagged `internal`. -/
def depthRecord (depth : InternalDepthMessage) : MarketData where
  exchange := exchangeInternal
  symbol := depth.symbol
  type := dataTypeDepth
  source := sourceInternal
  timestamp := depth.timestamp
  data := .orderBook ⟨depth.symbol, depth.bids, depth.asks, depth.timestamp⟩

/-- The record `handleTicker` builds: the decoded `models.Ticker` itself (a value, not a
pointer), stamped with `now` when its timestamp is `0`, tagged `internal`. -/
def tickerRecord (now : Int) (ticker : Ticker) : MarketData :=
  let ticker := if ticker.timestamp = 0 then { ticker with timestamp := now } else ticker
  { exchange := exchangeInternal
    symbol := ticker.symbol
    type := dataTypeTicker
    source := sourceInternal
    timestamp := ticker.timestamp
    data := .tickerValue ticker }

/-- `handleTrade`. -/
def handleTrade (method : String) (body : Option InternalTradeMessage) : Handled :=
  handlePost tradeRecord method body

/-- `handleDepth`. -/
def handleDepth (method : String) (body : Option InternalDepthMessage) : Handled :=
  handlePost depthRecord method body

/-- `handleTicker`. -/
def handleTicker (now : Int) (method : String) (body : Option Ticker) : Handled :=
  handlePost (tickerRecord now) method body

/-- A request either hands over the record its body decodes to, or is refused and hands over
nothing. -/
theorem handlePost_record {α : Type} (toRecord : α → MarketData) (method : String)
    (body : Option α) :
    (handlePost toRecord method body).record =
      if method = "POST" then body.map toRecord else none := by
  by_cases post : method = "POST" <;> cases body <;> simp [handlePost, post]

end InternalAdapter

end Adapters

end MarketSystem
