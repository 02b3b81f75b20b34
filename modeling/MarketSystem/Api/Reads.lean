import MarketSystem.Api.Market
import MarketSystem.Processor.Timed

/-!
# What the API answers after a run of the processor

The processor and the API meet only in Redis.  Composing the closed forms of what a run of the
processor leaves there (`Processor.Stored`) with the API's reads (`Api.Market`) says what a
client gets back, whatever the interleaving of the processor's goroutines: the latest ticker of
the symbol, the latest book with each side sorted and cut to the limit, and the newest candles,
newest first, in the range `LRANGE 0 (limit - 1)` selects.  The records' times are assumed below
`2^53`, where the stored encodings read back exactly.

These answers hold after a run in which no time passes, and after a timed run
(`Processor.Timed`) for every key that no lapse of time has deleted: the ticker hash and the
book an hour after they were last given a time to live, a candle list seven days after.
-/

namespace MarketSystem

namespace Api

open Processor

variable {sorter : LevelSorter} {loc : Location}
variable {storage : RedisState} {events : List ProcessorEvent} {s : ProcessorState}

/-- `GetTicker` answers with the fields of the latest ticker of the symbol the processor has
handled, or as it did before the run when there is none. -/
theorem run_idle_getTicker (reached : (newProcessor storage).run sorter loc events = some s)
    (idle : ∀ topic, s.pending topic = []) (symbol : String) :
    getTicker s.storage symbol =
      match latestTicker symbol ((fetched .ticker events).filterMap decodeTicker) with
      | some latest => .ok ⟨symbol, latest.lastPrice, latest.bidPrice, latest.askPrice,
          latest.high24h, latest.low24h, latest.volume24h, latest.timestamp⟩
      | none => getTicker storage symbol := by
  have hash := run_idle_ticker_hash reached idle symbol
  cases latest : latestTicker symbol ((fetched .ticker events).filterMap decodeTicker) with
  | none =>
    rw [latest] at hash
    simp only [getTicker, hash, Option.map_none', Option.getD_none]
  | some t =>
    rw [latest] at hash
    exact getTicker_tickerHash hash

/-- `GetDepth` answers with the latest book of the symbol the processor has handled, each side
sorted (bids from the highest price, asks from the lowest) and cut to the request's limit, or as
it did before the run when there is none. -/
theorem run_idle_getDepth (reached : (newProcessor storage).run sorter loc events = some s)
    (idle : ∀ topic, s.pending topic = []) (req : Types.DepthRequest)
    (small : ∀ b ∈ (fetched .depth events).filterMap decodeDepth, b.timestamp.natAbs < 2 ^ 53) :
    getDepth s.storage req =
      match latestBook req.symbol ((fetched .depth events).filterMap decodeDepth) with
      | some latest => .ok ⟨req.symbol,
          ((DepthManager.ofBook sorter latest).bids.take req.limit.toNat).map
            Types.PriceLevel.ofLevel,
          ((DepthManager.ofBook sorter latest).asks.take req.limit.toNat).map
            Types.PriceLevel.ofLevel, latest.timestamp⟩
      | none => getDepth storage req := by
  have string := run_idle_depth_string reached idle req.symbol
  cases latest : latestBook req.symbol ((fetched .depth events).filterMap decodeDepth) with
  | none =>
    rw [latest] at string
    simp only [getDepth, string, Option.map_none', Option.none_or]
  | some b =>
    rw [latest] at string
    have mem : b ∈ (fetched .depth events).filterMap decodeDepth :=
      (List.mem_filter.mp (List.mem_of_getLast?_eq_some latest)).1
    exact getDepth_toJson string (small b mem)

/-- `GetKline` on a maintained interval, from a list the run started empty, answers with the
newest candles the processor closed for the symbol and interval, newest first: at most 1000 are
kept, a positive limit takes the first `limit` of them, a limit of `0` all of them, a negative
limit all but the oldest `-limit`, and the least `int64` all of them again. -/
theorem run_idle_getKline (reached : (newProcessor storage).run sorter loc events = some s)
    (idle : ∀ topic, s.pending topic = []) (req : Types.KlineRequest)
    (maintained : req.interval ∈ klineIntervals)
    (fresh : storage.lists (klineKey req.symbol req.interval) = [])
    (fits : -2 ^ 63 ≤ req.limit ∧ req.limit < 2 ^ 63)
    (small : ∀ k ∈ savedKlines loc (fetched .trade events) req.symbol req.interval,
      k.openTime.natAbs < 2 ^ 53 ∧ k.closeTime.natAbs < 2 ^ 53 ∧ k.tradeNum.natAbs < 2 ^ 53) :
    getKline s.storage req = ⟨req.symbol, req.interval,
      (((savedKlines loc (fetched .trade events) req.symbol req.interval).reverse.take 1000).take
          (if 0 < req.limit then req.limit
            else if req.limit = -2 ^ 63 then
              (min 1000 (savedKlines loc (fetched .trade events) req.symbol req.interval).length : Nat)
            else (min 1000 (savedKlines loc (fetched .trade events) req.symbol
              req.interval).length : Nat) + req.limit).toNat).map Types.Kline.ofKline⟩ := by
  have list := run_idle_kline_list reached idle req.symbol maintained (by simp [fresh])
  rw [fresh, List.append_nil, ← List.map_take] at list
  rw [getKline_toJson list (fun k mem => small k (List.mem_reverse.mp (List.mem_of_mem_take mem)))
    fits (by simp only [List.length_take]; omega), List.length_take, List.length_reverse]

/-- `GetKline` takes any interval, while the processor maintains six (the constants and
`ValidateInterval` also name `30m` and `1w`).  No run writes the list of a colon-free interval
outside the six: at every state a run reaches, idle or not, `GetKline` for it answers as it did
before the run. -/
theorem run_getKline_unmaintained (reached : (newProcessor storage).run sorter loc events = some s)
    (req : Types.KlineRequest) (unmaintained : req.interval ∉ klineIntervals)
    (colonFree : ':' ∉ req.interval.data) :
    getKline s.storage req = getKline storage req := by
  have list := run_read_of_not_writes sorter loc reached (.list (klineKey req.symbol req.interval))
    fun topic command mem => Bool.eq_false_iff.mpr fun writes =>
      unmaintained (maintained_of_writes_klineKey sorter loc mem writes colonFree)
  simp only [RedisState.read, CellContents.list.injEq] at list
  simp only [getKline, show redisKeyKline ++ req.symbol ++ ":" ++ req.interval =
    klineKey req.symbol req.interval from rfl, list]

theorem run_getKline_unmaintained_sample :
    ∃ s, (newProcessor .empty).run levelMergeSorter (.fixed 0) sampleEvents = some s ∧
      "30m" ∉ klineIntervals ∧ ':' ∉ "30m".data ∧
      getKline s.storage ⟨"BTCUSDT", "30m", 100⟩ = getKline .empty ⟨"BTCUSDT", "30m", 100⟩ :=
  ⟨_, rfl, by decide, by decide,
    @run_getKline_unmaintained levelMergeSorter (.fixed 0) .empty sampleEvents _ rfl
      ⟨"BTCUSDT", "30m", 100⟩ (by decide) (by decide)⟩

/-! ## Runs in which time passes -/

section Timed

variable {timed : List TimedEvent}

/-- After a timed run in which each goroutine has sent its commands and no lapse of time has
deleted the hash `ticker:{symbol}`, `GetTicker` answers with the fields of the latest ticker of
the symbol the processor has handled, or as it did before the run when there is none. -/
theorem timedRun_idle_getTicker (reached : (newProcessor storage).timedRun sorter loc timed = some s)
    (idle : ∀ topic, s.pending topic = []) (symbol : String)
    (kept : (newProcessor storage).keeps sorter loc (.hash (redisKeyTicker ++ symbol)) timed) :
    getTicker s.storage symbol =
      match latestTicker symbol ((fetched .ticker (untimed timed)).filterMap decodeTicker) with
      | some latest => .ok ⟨symbol, latest.lastPrice, latest.bidPrice, latest.askPrice,
          latest.high24h, latest.low24h, latest.volume24h, latest.timestamp⟩
      | none => getTicker storage symbol := by
  obtain ⟨u, run, agree⟩ := timedRun_untimed reached kept
  have hash := agree.read
  simp only [RedisState.read, CellContents.hash.injEq] at hash
  rw [show getTicker s.storage symbol = getTicker u.storage symbol by simp only [getTicker, hash]]
  exact run_idle_getTicker run (agree.idle idle) symbol

theorem timedRun_idle_getTicker_sample :
    ∃ s, (newProcessor .empty).timedRun levelMergeSorter (.fixed 0) (spaced 1000 sampleEvents) =
        some s ∧ (∀ topic, s.pending topic = []) ∧
      (newProcessor .empty).keeps levelMergeSorter (.fixed 0) (.hash (redisKeyTicker ++ "BTCUSDT"))
        (spaced 1000 sampleEvents) ∧
      getTicker s.storage "BTCUSDT" =
        match latestTicker "BTCUSDT"
            ((fetched .ticker (untimed (spaced 1000 sampleEvents))).filterMap decodeTicker) with
        | some latest => .ok ⟨"BTCUSDT", latest.lastPrice, latest.bidPrice, latest.askPrice,
            latest.high24h, latest.low24h, latest.volume24h, latest.timestamp⟩
        | none => getTicker .empty "BTCUSDT" :=
  ⟨_, rfl, fun topic => by cases topic <;> rfl, rfl,
    @timedRun_idle_getTicker levelMergeSorter (.fixed 0) .empty _ (spaced 1000 sampleEvents) rfl
      (fun topic => by cases topic <;> rfl) "BTCUSDT" rfl⟩

/-- After a timed run in which each goroutine has sent its commands and no lapse of time has
deleted the string `depth:{symbol}`, `GetDepth` answers with the latest book of the symbol the
processor has handled, each side sorted (bids from the highest price, asks from the lowest) and
cut to the request's limit, or as it did before the run when there is none. -/
theorem timedRun_idle_getDepth (reached : (newProcessor storage).timedRun sorter loc timed = some s)
    (idle : ∀ topic, s.pending topic = []) (req : Types.DepthRequest)
    (kept : (newProcessor storage).keeps sorter loc (.string (redisKeyDepth ++ req.symbol)) timed)
    (small : ∀ b ∈ (fetched .depth (untimed timed)).filterMap decodeDepth,
      b.timestamp.natAbs < 2 ^ 53) :
    getDepth s.storage req =
      match latestBook req.symbol ((fetched .depth (untimed timed)).filterMap decodeDepth) with
      | some latest => .ok ⟨req.symbol,
          ((DepthManager.ofBook sorter latest).bids.take req.limit.toNat).map
            Types.PriceLevel.ofLevel,
          ((DepthManager.ofBook sorter latest).asks.take req.limit.toNat).map
            Types.PriceLevel.ofLevel, latest.timestamp⟩
      | none => getDepth storage req := by
  obtain ⟨u, run, agree⟩ := timedRun_untimed reached kept
  have string := agree.read
  simp only [RedisState.read, CellContents.string.injEq] at string
  rw [show getDepth s.storage req = getDepth u.storage req by simp only [getDepth, string]]
  exact run_idle_getDepth run (agree.idle idle) req small

theorem timedRun_idle_getDepth_sample :
    ∃ s, (newProcessor .empty).timedRun levelMergeSorter (.fixed 0) (spaced 1000 sampleEvents) =
        some s ∧ (∀ topic, s.pending topic = []) ∧
      (newProcessor .empty).keeps levelMergeSorter (.fixed 0) (.string (redisKeyDepth ++ "BTCUSDT"))
        (spaced 1000 sampleEvents) ∧
      (∀ b ∈ (fetched .depth (untimed (spaced 1000 sampleEvents))).filterMap decodeDepth,
        b.timestamp.natAbs < 2 ^ 53) ∧
      getDepth s.storage ⟨"BTCUSDT", 1⟩ =
        match latestBook "BTCUSDT"
            ((fetched .depth (untimed (spaced 1000 sampleEvents))).filterMap decodeDepth) with
        | some latest => .ok ⟨"BTCUSDT",
            ((DepthManager.ofBook levelMergeSorter latest).bids.take 1).map
              Types.PriceLevel.ofLevel,
            ((DepthManager.ofBook levelMergeSorter latest).asks.take 1).map
              Types.PriceLevel.ofLevel, latest.timestamp⟩
        | none => getDepth .empty ⟨"BTCUSDT", 1⟩ :=
  ⟨_, rfl, fun topic => by cases topic <;> rfl, rfl, by decide,
    @timedRun_idle_getDepth levelMergeSorter (.fixed 0) .empty _ (spaced 1000 sampleEvents) rfl
      (fun topic => by cases topic <;> rfl) ⟨"BTCUSDT", 1⟩ rfl (by decide)⟩

/-- After a timed run in which each goroutine has sent its commands and no lapse of time has
deleted the list `kline:{symbol}:{interval}` of a maintained interval, empty before the run,
`GetKline` answers with the newest candles the processor closed for the symbol and interval,
newest first: at most 1000 are kept, a positive limit takes the first `limit` of them, a limit
of `0` all of them, a negative limit all but the oldest `-limit`, and the least `int64`, for
which `limit - 1` wraps around, all of them. -/
theorem timedRun_idle_getKline (reached : (newProcessor storage).timedRun sorter loc timed = some s)
    (idle : ∀ topic, s.pending topic = []) (req : Types.KlineRequest)
    (maintained : req.interval ∈ klineIntervals)
    (fresh : storage.lists (klineKey req.symbol req.interval) = [])
    (kept : (newProcessor storage).keeps sorter loc (.list (klineKey req.symbol req.interval)) timed)
    (fits : -2 ^ 63 ≤ req.limit ∧ req.limit < 2 ^ 63)
    (small : ∀ k ∈ savedKlines loc (fetched .trade (untimed timed)) req.symbol req.interval,
      k.openTime.natAbs < 2 ^ 53 ∧ k.closeTime.natAbs < 2 ^ 53 ∧ k.tradeNum.natAbs < 2 ^ 53) :
    getKline s.storage req = ⟨req.symbol, req.interval,
      (((savedKlines loc (fetched .trade (untimed timed)) req.symbol req.interval).reverse.take
          1000).take
        (if 0 < req.limit then req.limit
          else if req.limit = -2 ^ 63 then
            (min 1000 (savedKlines loc (fetched .trade (untimed timed)) req.symbol
              req.interval).length : Nat)
          else (min 1000 (savedKlines loc (fetched .trade (untimed timed)) req.symbol
            req.interval).length : Nat) + req.limit).toNat).map Types.Kline.ofKline⟩ := by
  obtain ⟨u, run, agree⟩ := timedRun_untimed reached kept
  have list := agree.read
  simp only [RedisState.read, CellContents.list.injEq] at list
  rw [show getKline s.storage req = getKline u.storage req by
    simp only [getKline, show redisKeyKline ++ req.symbol ++ ":" ++ req.interval =
      klineKey req.symbol req.interval from rfl, list]]
  exact run_idle_getKline run (agree.idle idle) req maintained fresh fits small

set_option maxRecDepth 2000 in
theorem timedRun_idle_getKline_sample :
    ∃ s, (newProcessor .empty).timedRun levelMergeSorter (.fixed 0)
        (spaced 1000 sampleCandleEvents) = some s ∧ (∀ topic, s.pending topic = []) ∧
      "1m" ∈ klineIntervals ∧ RedisState.empty.lists (klineKey "BTCUSDT" "1m") = [] ∧
      (newProcessor .empty).keeps levelMergeSorter (.fixed 0) (.list (klineKey "BTCUSDT" "1m"))
        (spaced 1000 sampleCandleEvents) ∧
      (-2 ^ 63 ≤ (-2 ^ 63 : Int) ∧ (-2 ^ 63 : Int) < 2 ^ 63) ∧
      (∀ k ∈ savedKlines (.fixed 0) (fetched .trade (untimed (spaced 1000 sampleCandleEvents)))
          "BTCUSDT" "1m",
        k.openTime.natAbs < 2 ^ 53 ∧ k.closeTime.natAbs < 2 ^ 53 ∧ k.tradeNum.natAbs < 2 ^ 53) ∧
      getKline s.storage ⟨"BTCUSDT", "1m", -2 ^ 63⟩ = ⟨"BTCUSDT", "1m",
        (((savedKlines (.fixed 0) (fetched .trade (untimed (spaced 1000 sampleCandleEvents)))
            "BTCUSDT" "1m").reverse.take 1000).take
          (if 0 < (-2 ^ 63 : Int) then (-2 ^ 63 : Int)
            else if (-2 ^ 63 : Int) = -2 ^ 63 then
              ((min 1000 (savedKlines (.fixed 0)
                (fetched .trade (untimed (spaced 1000 sampleCandleEvents))) "BTCUSDT" "1m").length
                  : Nat) : Int)
            else ((min 1000 (savedKlines (.fixed 0)
              (fetched .trade (untimed (spaced 1000 sampleCandleEvents))) "BTCUSDT" "1m").length
                : Nat) : Int) + -2 ^ 63).toNat).map Types.Kline.ofKline⟩ :=
  ⟨_, rfl, fun topic => by cases topic <;> rfl, by decide, rfl, rfl, by decide, by decide,
    @timedRun_idle_getKline levelMergeSorter (.fixed 0) .empty _ (spaced 1000 sampleCandleEvents)
      rfl (fun topic => by cases topic <;> rfl) ⟨"BTCUSDT", "1m", -2 ^ 63⟩ (by decide) rfl rfl
      (by decide) (by decide)⟩

end Timed

end Api

end MarketSystem
