import MarketSystem.Processor.Storage

/-!
# The market API's read path

`GetTicker`, `GetDepth` and `GetKline` answer from what the processor stored in Redis: the hash
`ticker:{symbol}` through `HGETALL` and `fmt.Sscanf`, the string `depth:{symbol}` through `GET`
and `json.Unmarshal` into `models.OrderBook`, and the list `kline:{symbol}:{interval}` through
`LRANGE` and `json.Unmarshal` of each entry into `models.Kline`.

`json.Unmarshal` into a struct is modelled field by field: a missing key or `null` leaves the
field's zero value, a value of the field's JSON kind is taken, and any other value is an
`UnmarshalTypeError`, which the handlers report.  A stored value is represented, as everywhere in
this development, by what `encoding/json` decodes from it; its `int64` fields are exact below
`2^53`, which is where the round trips below are stated.  The ticker hash holds text, which
`HSET` writes and `fmt.Sscanf` reads back exactly.  `LRANGE`'s stop index `limit - 1` is
computed in `int64`.  Redis failures other than a missing key are left out.
-/

namespace MarketSystem

namespace Api

/-! ## Unmarshalling into the models -/

/-- `json.Unmarshal` of a field into a `string`. -/
def unmarshalString : Option Json → Option String
  | none | some .null => some ""
  | some (.string s) => some s
  | some _ => none

/-- `json.Unmarshal` of a field into a `float64`. -/
def unmarshalFloat : Option Json → Option ℚ
  | none | some .null => some 0
  | some (.number x) => some x
  | some _ => none

/-- `json.Unmarshal` of a field into an `int64`: the number must be an integer that fits. -/
def unmarshalInt64 : Option Json → Option Int
  | none | some .null => some 0
  | some (.number x) => if x.den = 1 ∧ -2 ^ 63 ≤ x.num ∧ x.num < 2 ^ 63 then some x.num else none
  | some _ => none

/-- `json.Unmarshal` into a `models.PriceLevel`. -/
def unmarshalPriceLevel : Json → Option PriceLevel
  | .null => some ⟨0, 0⟩
  | .object fields => do
      let price ← unmarshalFloat ((Json.object fields).field "price")
      let amount ← unmarshalFloat ((Json.object fields).field "amount")
      pure ⟨price, amount⟩
  | _ => none

/-- `json.Unmarshal` of a field into a `[]models.PriceLevel`. -/
def unmarshalLevels : Option Json → Option (List PriceLevel)
  | none | some .null => some []
  | some (.array items) => items.mapM unmarshalPriceLevel
  | some _ => none

/-- `json.Unmarshal` into a `models.OrderBook`. -/
def unmarshalOrderBook : Json → Option OrderBook
  | .null => some ⟨"", [], [], 0⟩
  | .object fields => do
      let book := Json.object fields
      let symbol ← unmarshalString (book.field "symbol")
      let bids ← unmarshalLevels (book.field "bids")
      let asks ← unmarshalLevels (book.field "asks")
      let timestamp ← unmarshalInt64 (book.field "timestamp")
      pure ⟨symbol, bids, asks, timestamp⟩
  | _ => none

/-- `json.Unmarshal` into a `models.Kline`. -/
def unmarshalKline : Json → Option Kline
  | .null => some ⟨"", "", 0, 0, 0, 0, 0, 0, 0, 0, 0⟩
  | .object fields => do
      let k := Json.object fields
      let symbol ← unmarshalString (k.field "symbol")
      let interval ← unmarshalString (k.field "interval")
      let openTime ← unmarshalInt64 (k.field "open_time")
      let closeTime ← unmarshalInt64 (k.field "close_time")
      let open_ ← unmarshalFloat (k.field "open")
      let high ← unmarshalFloat (k.field "high")
      let low ← unmarshalFloat (k.field "low")
      let close ← unmarshalFloat (k.field "close")
      let volume ← unmarshalFloat (k.field "volume")
      let quoteVol ← unmarshalFloat (k.field "quote_vol")
      let tradeNum ← unmarshalInt64 (k.field "trade_num")
      pure ⟨symbol, interval, openTime, closeTime, open_, high, low, close, volume, quoteVol,
        tradeNum⟩
  | _ => none

/-! ## Reading the storage's encodings back -/

/-- An `int64` field reads back exactly below `2^53`. -/
theorem unmarshalInt64_intJson {n : Int} (small : n.natAbs < 2 ^ 53) :
    unmarshalInt64 (some (intJson n)) = some n := by
  rw [intJson, nearestFloat64_of_lt small, unmarshalInt64, Rat.intCast_den, Rat.intCast_num,
    if_pos ⟨rfl, by omega, by omega⟩]

@[simp]
theorem unmarshalPriceLevel_toJson (level : PriceLevel) :
    unmarshalPriceLevel level.toJson = some level :=
  rfl

theorem unmarshalLevels_toJson (levels : List PriceLevel) :
    unmarshalLevels (some (.array (levels.map PriceLevel.toJson))) = some levels := by
  induction levels with
  | nil => rfl
  | cons level levels ih =>
    simp only [unmarshalLevels, List.map_cons, List.mapM_cons, unmarshalPriceLevel_toJson] at ih ⊢
    rw [ih]
    rfl

/-- The book `SaveDepth` stores reads back as itself, when its time is below `2^53`. -/
theorem unmarshalOrderBook_toJson (b : OrderBook) (small : b.timestamp.natAbs < 2 ^ 53) :
    unmarshalOrderBook b.toJson = some b := by
  have bids := unmarshalLevels_toJson b.bids
  have asks := unmarshalLevels_toJson b.asks
  have timestamp := unmarshalInt64_intJson small
  simp only [OrderBook.toJson, unmarshalOrderBook, Json.field, List.find?, String.reduceBEq,
    Option.map_some', unmarshalString, bids, asks, timestamp]
  rfl

/-- The candle `SaveKline` stores reads back as itself, when its times and trade count are below
`2^53`. -/
theorem unmarshalKline_toJson (k : Kline) (smallOpen : k.openTime.natAbs < 2 ^ 53)
    (smallClose : k.closeTime.natAbs < 2 ^ 53) (smallCount : k.tradeNum.natAbs < 2 ^ 53) :
    unmarshalKline k.toJson = some k := by
  simp only [Kline.toJson, unmarshalKline, Json.field, List.find?, String.reduceBEq,
    Option.map_some', unmarshalString, unmarshalFloat, unmarshalInt64_intJson smallOpen,
    unmarshalInt64_intJson smallClose, unmarshalInt64_intJson smallCount]
  rfl

/-! ## Redis reads -/

/-- `LRANGE key start stop` on a list: negative indices count from the end, the start is cut to
the list's head and the stop to its last entry, and an empty range gives no entries. -/
def lrange (list : List Json) (start stop : Int) : List Json :=
  let length : Int := list.length
  let start := max (if start < 0 then length + start else start) 0
  let stop := if stop < 0 then length + stop else stop
  if start > stop ∨ start ≥ length then []
  else (list.drop start.toNat).take ((min stop (length - 1)) - start + 1).toNat

/-- The range `GetKline` asks for, `LRANGE key 0 (limit - 1)`: the first `limit` entries for a
positive limit, the whole list for `0`, and all but the last `-limit` entries for a negative
one. -/
theorem lrange_zero_limit (list : List Json) (limit : Int) :
    lrange list 0 (limit - 1) =
      list.take (if 0 < limit then limit else list.length + limit).toNat := by
  unfold lrange
  simp only [lt_self_iff_false, if_false, max_self, Int.toNat_zero, List.drop_zero]
  split_ifs with negative empty empty positive positive
  all_goals first
    | exact List.take_eq_take.mpr (by omega)
    | exact (List.take_eq_nil_iff.mpr (by
        by_cases none : list.length = 0
        · exact .inr (List.eq_nil_of_length_eq_zero none)
        · exact .inl (by omega))).symm

theorem wrapInt64_of_fits {n : Int} (fits : -2 ^ 63 ≤ n ∧ n < 2 ^ 63) : wrapInt64 n = n := by
  rw [wrapInt64, Int.emod_eq_of_lt (by omega) (by omega)]
  omega

/-- The range `GetKline` asks for, `LRANGE key 0 (limit - 1)` with `int64` arithmetic: as
`lrange_zero_limit` says for every `int64` limit but the least, where `limit - 1` wraps around to
the greatest `int64` and the range is the whole list. -/
theorem lrange_zero_wrapInt64 (list : List Json) {limit : Int}
    (fits : -2 ^ 63 ≤ limit ∧ limit < 2 ^ 63) (short : list.length ≤ 2 ^ 63) :
    lrange list 0 (wrapInt64 (limit - 1)) =
      list.take (if 0 < limit then limit
        else if limit = -2 ^ 63 then list.length else list.length + limit).toNat := by
  by_cases least : limit = -2 ^ 63
  · have wrapped : wrapInt64 (limit - 1) = 2 ^ 63 - 1 := by rw [least]; rfl
    rw [wrapped, lrange_zero_limit, if_pos (by norm_num), if_neg (by omega), if_pos least,
      List.take_of_length_le (by omega), List.take_of_length_le (by simp)]
  · rw [wrapInt64_of_fits (by omega), lrange_zero_limit, if_neg least]

/-! ## The handlers' logic -/

namespace Types

/-- `types.TickerResponse`. -/
structure TickerResponse where
  symbol : String
  lastPrice : ℚ
  bidPrice : ℚ
  askPrice : ℚ
  high24h : ℚ
  low24h : ℚ
  volume24h : ℚ
  timestamp : Int
  deriving DecidableEq, Repr

/-- `types.DepthRequest`, with the default of its `limit` form field. -/
structure DepthRequest where
  symbol : String
  limit : Int := 20
  deriving DecidableEq, Repr

/-- `types.PriceLevel`. -/
structure PriceLevel where
  price : ℚ
  amount : ℚ
  deriving DecidableEq, Repr

/-- `types.DepthResponse`. -/
structure DepthResponse where
  symbol : String
  bids : List PriceLevel
  asks : List PriceLevel
  timestamp : Int
  deriving DecidableEq, Repr

/-- `types.KlineRequest`, with the defaults of its `interval` and `limit` form fields. -/
structure KlineRequest where
  symbol : String
  interval : String := "1m"
  limit : Int := 100
  deriving DecidableEq, Repr

/-- `types.Kline`. -/
structure Kline where
  openTime : Int
  closeTime : Int
  open_ : ℚ
  high : ℚ
  low : ℚ
  close : ℚ
  volume : ℚ
  quoteVol : ℚ
  tradeNum : Int
  deriving DecidableEq, Repr

/-- `types.KlineResponse`. -/
structure KlineResponse where
  symbol : String
  interval : String
  data : List Kline
  deriving DecidableEq, Repr

/-- The level `GetDepth` copies from a stored one. -/
def PriceLevel.ofLevel (level : MarketSystem.PriceLevel) : PriceLevel :=
  ⟨level.price, level.amount⟩

/-- The fields `GetKline` copies from a stored candle. -/
def Kline.ofKline (k : MarketSystem.Kline) : Kline :=
  ⟨k.openTime, k.closeTime, k.open_, k.high, k.low, k.close, k.volume, k.quoteVol, k.tradeNum⟩

end Types

/-- `fmt.Sscanf(val, "%f", &field)` on a field of the hash.  `HSET` writes a `float64` as
`strconv.FormatFloat(f, 'f', -1, 64)`, which scans back as the same value; a missing field, or a
value that does not scan, leaves the field at `0`. -/
def scanFloat (data : List (String × Json)) (key : String) : ℚ :=
  match data.lookup key with
  | some (.number x) => x
  | _ => 0

/-- `fmt.Sscanf(val, "%d", &field)`: the integer the value starts with.  `HSET` writes an `int64`
in decimal, which scans back exactly. -/
def scanInt (data : List (String × Json)) (key : String) : Int :=
  match data.lookup key with
  | some (.number x) => truncToInt x
  | _ => 0

/-- `GetTickerLogic.GetTicker`: an empty hash is a missing ticker. -/
def getTicker (st : RedisState) (symbol : String) : Except String Types.TickerResponse :=
  let data := st.hashes (redisKeyTicker ++ symbol)
  if data.isEmpty then .error ("ticker not found for symbol: " ++ symbol)
  else .ok ⟨symbol, scanFloat data "last_price", scanFloat data "bid_price",
    scanFloat data "ask_price", scanFloat data "high_24h", scanFloat data "low_24h",
    scanFloat data "volume_24h", scanInt data "timestamp"⟩

/-- `GetDepthLogic.GetDepth`: each side cut to the first `limit` levels, none for a negative
limit.  The text `encoding/json` appends to a parse error is left out. -/
def getDepth (st : RedisState) (req : Types.DepthRequest) : Except String Types.DepthResponse :=
  match st.strings (redisKeyDepth ++ req.symbol) with
  | none => .error "failed to get depth: redis: nil"
  | some data =>
      match unmarshalOrderBook data with
      | none => .error "failed to parse depth data"
      | some depth =>
          .ok ⟨req.symbol, (depth.bids.take req.limit.toNat).map Types.PriceLevel.ofLevel,
            (depth.asks.take req.limit.toNat).map Types.PriceLevel.ofLevel, depth.timestamp⟩

/-- `GetKlineLogic.GetKline`: `LRANGE key 0 (limit - 1)`, the subtraction in `int64`, each entry
unmarshalled, an entry that does not unmarshal skipped. -/
def getKline (st : RedisState) (req : Types.KlineRequest) : Types.KlineResponse :=
  let results := lrange (st.lists (redisKeyKline ++ req.symbol ++ ":" ++ req.interval)) 0
    (wrapInt64 (req.limit - 1))
  ⟨req.symbol, req.interval,
    results.filterMap fun data => (unmarshalKline data).map Types.Kline.ofKline⟩

/-! ## What the handlers return for what the storage wrote -/

/-- The hash `SaveTicker` writes answers `GetTicker` with the ticker's fields under the requested
symbol. -/
theorem getTicker_tickerHash {st : RedisState} {symbol : String} {t : Ticker}
    (stored : st.hashes (redisKeyTicker ++ symbol) = tickerHash t) :
    getTicker st symbol = .ok ⟨symbol, t.lastPrice, t.bidPrice, t.askPrice, t.high24h, t.low24h,
      t.volume24h, t.timestamp⟩ := by
  have timestamp : scanInt (tickerHash t) "timestamp" = t.timestamp := by
    simp only [scanInt, tickerHash, List.lookup_cons, String.reduceBEq, truncToInt_intCast]
  simp only [getTicker, stored, timestamp]
  rfl

/-- The book `SaveDepth` wrote answers `GetDepth` with the first `limit` levels of each side and
the book's time, when that time is below `2^53`. -/
theorem getDepth_toJson {st : RedisState} {req : Types.DepthRequest} {b : OrderBook}
    (stored : st.strings (redisKeyDepth ++ req.symbol) = some b.toJson)
    (small : b.timestamp.natAbs < 2 ^ 53) :
    getDepth st req = .ok ⟨req.symbol, (b.bids.take req.limit.toNat).map Types.PriceLevel.ofLevel,
      (b.asks.take req.limit.toNat).map Types.PriceLevel.ofLevel, b.timestamp⟩ := by
  simp only [getDepth, stored, unmarshalOrderBook_toJson b small]

theorem filterMap_unmarshalKline (klines : List Kline)
    (small : ∀ k ∈ klines, k.openTime.natAbs < 2 ^ 53 ∧ k.closeTime.natAbs < 2 ^ 53 ∧
      k.tradeNum.natAbs < 2 ^ 53) :
    (klines.map Kline.toJson).filterMap (fun data => (unmarshalKline data).map Types.Kline.ofKline) =
      klines.map Types.Kline.ofKline := by
  induction klines with
  | nil => rfl
  | cons k klines ih =>
    obtain ⟨smallOpen, smallClose, smallCount⟩ := small k (List.mem_cons_self _ _)
    simp [unmarshalKline_toJson k smallOpen smallClose smallCount,
      ih fun k mem => small k (List.mem_cons_of_mem _ mem)]

/-- Candles `SaveKline` wrote answer `GetKline` with the range of the request's `int64` limit,
each candle's fields copied, when its times and trade count are below `2^53`. -/
theorem getKline_toJson {st : RedisState} {req : Types.KlineRequest} {klines : List Kline}
    (stored : st.lists (redisKeyKline ++ req.symbol ++ ":" ++ req.interval) =
      klines.map Kline.toJson)
    (small : ∀ k ∈ klines, k.openTime.natAbs < 2 ^ 53 ∧ k.closeTime.natAbs < 2 ^ 53 ∧
      k.tradeNum.natAbs < 2 ^ 53)
    (fits : -2 ^ 63 ≤ req.limit ∧ req.limit < 2 ^ 63) (short : klines.length ≤ 2 ^ 63) :
    getKline st req = ⟨req.symbol, req.interval,
      (klines.take (if 0 < req.limit then req.limit
        else if req.limit = -2 ^ 63 then klines.length else klines.length + req.limit).toNat).map
        Types.Kline.ofKline⟩ := by
  simp only [getKline, stored,
    lrange_zero_wrapInt64 (klines.map Kline.toJson) fits (by simpa using short), List.length_map,
    ← List.map_take]
  rw [filterMap_unmarshalKline _ fun k mem => small k (List.mem_of_mem_take mem)]

end Api

end MarketSystem
