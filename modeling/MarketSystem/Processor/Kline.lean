import MarketSystem.Common.Time
import MarketSystem.Processor.Storage
import MarketSystem.Processor.Decode

/-!
# Candle aggregation in the processor

`KlineHandler.HandleTrade` feeds every trade to one `KlineAggregator` per interval, found under
the key `symbol:interval`.  An aggregator keeps the candle being built; a trade whose open time
differs from that candle's closes it, handing it to `SaveKline`, and opens a new one.  A candle is
therefore saved only when a trade of another period arrives, whichever way the open time moved.

The handler behaves as independent aggregators, one per symbol and interval, each fed the trades
of its symbol in order (`savedFor_handleTrades`).  An aggregator whose trades have non-decreasing
open times saves candles with strictly increasing open times; in a zone with one offset, that
holds whenever its trades' timestamps do not decrease.
-/

namespace MarketSystem

namespace Processor

/-- The intervals `NewKlineHandler` maintains: `30m` is not among them. -/
def klineIntervals : List String := ["1m", "5m", "15m", "1h", "4h", "1d"]

/-- A `KlineAggregator`: its symbol, its interval and the candle it is building. -/
structure KlineAggregator where
  symbol : String
  interval : String
  currentKline : Option Kline

/-- `NewKlineAggregator`. -/
def newKlineAggregator (symbol interval : String) : KlineAggregator :=
  ⟨symbol, interval, none⟩

/-- `updateKline`. -/
def updateKline (k : Kline) (trade : Trade) : Kline :=
  { k with
    high := if trade.price > k.high then trade.price else k.high
    low := if trade.price < k.low then trade.price else k.low
    close := trade.price
    volume := k.volume + trade.amount
    quoteVol := k.quoteVol + trade.price * trade.amount
    tradeNum := k.tradeNum + 1 }

@[simp]
theorem updateKline_openTime (k : Kline) (trade : Trade) : (updateKline k trade).openTime = k.openTime :=
  rfl

@[simp]
theorem updateKline_symbol (k : Kline) (trade : Trade) : (updateKline k trade).symbol = k.symbol :=
  rfl

@[simp]
theorem updateKline_interval (k : Kline) (trade : Trade) :
    (updateKline k trade).interval = k.interval :=
  rfl

namespace KlineAggregator

/-- The candle `AddTrade` opens at `openTime`: every price the trade's, nothing traded yet. -/
def openKline (a : KlineAggregator) (openTime : Int) (trade : Trade) : Kline where
  symbol := a.symbol
  interval := a.interval
  openTime := openTime
  closeTime := getKlineCloseTime openTime a.interval
  open_ := trade.price
  high := trade.price
  low := trade.price
  close := trade.price
  volume := 0
  quoteVol := 0
  tradeNum := 0

/-- `AddTrade`: the aggregator afterwards, and the candle it hands to `SaveKline`, if any. -/
def addTrade (loc : Location) (a : KlineAggregator) (trade : Trade) :
    KlineAggregator × Option Kline :=
  let openTime := getKlineOpenTime loc trade.timestamp a.interval
  match a.currentKline with
  | some k =>
      if k.openTime = openTime then ({ a with currentKline := some (updateKline k trade) }, none)
      else ({ a with currentKline := some (updateKline (a.openKline openTime trade) trade) }, some k)
  | none => ({ a with currentKline := some (updateKline (a.openKline openTime trade) trade) }, none)

/-- `AddTrade` over a sequence of trades: the aggregator afterwards and the candles saved. -/
def addTrades (loc : Location) : KlineAggregator → List Trade → KlineAggregator × List Kline
  | a, [] => (a, [])
  | a, trade :: trades =>
      let next := a.addTrade loc trade
      let rest := next.1.addTrades loc trades
      (rest.1, next.2.toList ++ rest.2)

@[simp]
theorem addTrade_symbol (loc : Location) (a : KlineAggregator) (trade : Trade) :
    (a.addTrade loc trade).1.symbol = a.symbol := by
  dsimp only [addTrade]; split <;> (try split) <;> rfl

@[simp]
theorem addTrade_interval (loc : Location) (a : KlineAggregator) (trade : Trade) :
    (a.addTrade loc trade).1.interval = a.interval := by
  dsimp only [addTrade]; split <;> (try split) <;> rfl

/-- After a trade, the candle being built opens at the trade's open time. -/
theorem addTrade_currentKline (loc : Location) (a : KlineAggregator) (trade : Trade) :
    ∃ k, (a.addTrade loc trade).1.currentKline = some k ∧
      k.openTime = getKlineOpenTime loc trade.timestamp a.interval := by
  dsimp only [addTrade]
  split
  · split
    · next same => exact ⟨_, rfl, same⟩
    · exact ⟨_, rfl, rfl⟩
  · exact ⟨_, rfl, rfl⟩

/-- The candle a trade hands to `SaveKline` is the one being built, at another open time. -/
theorem addTrade_saved {loc : Location} {a : KlineAggregator} {trade : Trade} {saved : Kline}
    (h : (a.addTrade loc trade).2 = some saved) :
    a.currentKline = some saved ∧ saved.openTime ≠ getKlineOpenTime loc trade.timestamp a.interval := by
  dsimp only [addTrade] at h
  split at h
  · next current =>
    split at h
    · cases h
    · next differs => cases h; exact ⟨current, differs⟩
  · cases h

@[simp]
theorem addTrades_nil (loc : Location) (a : KlineAggregator) : a.addTrades loc [] = (a, []) :=
  rfl

@[simp]
theorem addTrades_interval (loc : Location) (a : KlineAggregator) (trades : List Trade) :
    (a.addTrades loc trades).1.interval = a.interval := by
  induction trades generalizing a with
  | nil => rfl
  | cons trade trades ih => simp [addTrades, ih]

/-- Every candle a run builds, in order: those saved, then the one still being built. -/
def candles (loc : Location) (a : KlineAggregator) (trades : List Trade) : List Kline :=
  (a.addTrades loc trades).2 ++ (a.addTrades loc trades).1.currentKline.toList

theorem candles_cons (loc : Location) (a : KlineAggregator) (trade : Trade) (trades : List Trade) :
    candles loc a (trade :: trades) =
      (a.addTrade loc trade).2.toList ++ candles loc (a.addTrade loc trade).1 trades := by
  simp [candles, addTrades]

/-- Every candle a run builds opens at the open time of the candle it started with or at the
open time of one of its trades. -/
theorem openTime_of_mem_candles {loc : Location} {a : KlineAggregator} {trades : List Trade}
    {k : Kline} (mem : k ∈ candles loc a trades) :
    (∃ c, a.currentKline = some c ∧ k.openTime = c.openTime) ∨
      ∃ trade ∈ trades, k.openTime = getKlineOpenTime loc trade.timestamp a.interval := by
  induction trades generalizing a with
  | nil => simp only [candles, addTrades_nil, List.nil_append, Option.mem_toList] at mem; exact .inl ⟨k, mem, rfl⟩
  | cons trade trades ih =>
    rw [candles_cons, List.mem_append] at mem
    rcases mem with saved | later
    · obtain ⟨current, -⟩ := addTrade_saved (Option.mem_toList.mp saved)
      exact .inl ⟨k, current, rfl⟩
    · obtain ⟨opened, isCurrent, openedAt⟩ := addTrade_currentKline loc a trade
      rcases ih later with ⟨c, current, same⟩ | ⟨other, mem, at_⟩
      · rw [isCurrent] at current
        cases current
        exact .inr ⟨trade, List.mem_cons_self _ _, same.trans openedAt⟩
      · exact .inr ⟨other, List.mem_cons_of_mem _ mem, by simpa using at_⟩

/-- An aggregator whose trades have non-decreasing open times, none before the candle it is
building, builds candles with strictly increasing open times. -/
theorem candles_openTime_strictMono {loc : Location} {a : KlineAggregator} {trades : List Trade}
    (monotone : ∀ ⦃early late : Int⦄, early ≤ late →
      getKlineOpenTime loc early a.interval ≤ getKlineOpenTime loc late a.interval)
    (ordered : trades.Pairwise fun first second => first.timestamp ≤ second.timestamp)
    (after : ∀ c, a.currentKline = some c → ∀ trade ∈ trades,
      c.openTime ≤ getKlineOpenTime loc trade.timestamp a.interval) :
    ((candles loc a trades).map (·.openTime)).Pairwise (· < ·) := by
  induction trades generalizing a with
  | nil => cases current : a.currentKline <;> simp [candles, current]
  | cons trade trades ih =>
    obtain ⟨earlier, ordered⟩ := List.pairwise_cons.mp ordered
    obtain ⟨opened, isCurrent, openedAt⟩ := addTrade_currentKline loc a trade
    have rest := ih (a := (a.addTrade loc trade).1) (by simpa using monotone) ordered
      (fun c current later mem => by
        rw [isCurrent] at current
        cases current
        simpa [openedAt] using monotone (earlier later mem))
    rw [candles_cons]
    cases saved : (a.addTrade loc trade).2 with
    | none => simpa using rest
    | some c =>
      obtain ⟨current, differs⟩ := addTrade_saved saved
      have before : c.openTime < getKlineOpenTime loc trade.timestamp a.interval :=
        lt_of_le_of_ne (after c current trade (List.mem_cons_self _ _)) differs
      simp only [Option.toList_some, List.singleton_append, List.map_cons, List.pairwise_cons,
        List.mem_map]
      refine ⟨?_, rest⟩
      rintro _ ⟨k, mem, rfl⟩
      rcases openTime_of_mem_candles mem with ⟨c', current', same⟩ | ⟨later, mem', at_⟩
      · rw [isCurrent] at current'
        cases current'
        omega
      · have := monotone (earlier later mem')
        simp only [addTrade_interval] at at_
        simp only at this
        omega

/-- The candle being built belongs to the aggregator. -/
def Owns (a : KlineAggregator) : Prop :=
  ∀ c, a.currentKline = some c → c.symbol = a.symbol ∧ c.interval = a.interval

theorem Owns.addTrade {a : KlineAggregator} (owns : a.Owns) (loc : Location) (trade : Trade) :
    (a.addTrade loc trade).1.Owns := by
  dsimp only [KlineAggregator.addTrade]
  split
  · next k current =>
    split
    · rintro c ⟨⟩
      exact owns k current
    · rintro c ⟨⟩
      exact ⟨rfl, rfl⟩
  · rintro c ⟨⟩
    exact ⟨rfl, rfl⟩

end KlineAggregator

open KlineAggregator

/-- Two handler keys `symbol:interval` with maintained intervals are equal only for the same
symbol and interval: no maintained interval ends another after a colon. -/
theorem klineKey_inj {symbol symbol' interval interval' : String}
    (mem : interval ∈ klineIntervals) (mem' : interval' ∈ klineIntervals) :
    symbol ++ ":" ++ interval = symbol' ++ ":" ++ interval' ↔
      symbol = symbol' ∧ interval = interval' := by
  refine ⟨fun same => ?_, fun ⟨rfl, rfl⟩ => rfl⟩
  have data : symbol.data ++ ':' :: interval.data = symbol'.data ++ ':' :: interval'.data := by
    have := congrArg String.data same
    simpa only [String.data_append, List.append_assoc, List.singleton_append] using this
  have suffixes : ∀ i ∈ klineIntervals, ∀ j ∈ klineIntervals,
      (':' :: i.data) <:+ (':' :: j.data) → i = j := by
    decide
  have intervalEq : interval = interval' := by
    rcases List.suffix_or_suffix_of_suffix (List.suffix_append symbol.data _)
        (data ▸ List.suffix_append symbol'.data _) with suffix | suffix
    · exact suffixes _ mem _ mem' suffix
    · exact (suffixes _ mem' _ mem suffix).symm
  subst intervalEq
  exact ⟨String.ext (List.append_cancel_right data), rfl⟩

/-- The candles of one symbol and interval among those handed to `SaveKline`. -/
def savedFor (symbol interval : String) (candles : List Kline) : List Kline :=
  candles.filter fun k => k.symbol = symbol ∧ k.interval = interval

@[simp]
theorem savedFor_append (symbol interval : String) (first second : List Kline) :
    savedFor symbol interval (first ++ second) =
      savedFor symbol interval first ++ savedFor symbol interval second :=
  List.filter_append _ _

@[simp]
theorem savedFor_nil (symbol interval : String) : savedFor symbol interval [] = [] :=
  rfl

/-- `KlineHandler`: the aggregators under their keys `symbol:interval`. -/
structure KlineHandler where
  aggregators : String → Option KlineAggregator

/-- `NewKlineHandler`. -/
def newKlineHandler : KlineHandler :=
  ⟨fun _ => none⟩

namespace KlineHandler

/-- The aggregator `HandleTrade` uses for a symbol and an interval: the one under
`symbol:interval`, or a new one. -/
def aggregatorAt (h : KlineHandler) (symbol interval : String) : KlineAggregator :=
  (h.aggregators (symbol ++ ":" ++ interval)).getD (newKlineAggregator symbol interval)

/-- `HandleTrade`'s loop over the intervals, from the given ones on: the handler afterwards and
the candles handed to `SaveKline`. -/
def handleIntervals (loc : Location) (trade : Trade) :
    KlineHandler → List String → KlineHandler × List Kline
  | h, [] => (h, [])
  | h, interval :: intervals =>
      let result := (h.aggregatorAt trade.symbol interval).addTrade loc trade
      let updated : KlineHandler :=
        ⟨Function.update h.aggregators (trade.symbol ++ ":" ++ interval) (some result.1)⟩
      let rest := handleIntervals loc trade updated intervals
      (rest.1, result.2.toList ++ rest.2)

/-- `HandleTrade`. -/
def handleTrade (loc : Location) (h : KlineHandler) (trade : Trade) : KlineHandler × List Kline :=
  handleIntervals loc trade h klineIntervals

/-- `HandleTrade` over a sequence of trades: the handler afterwards and every candle handed to
`SaveKline`, in order. -/
def handleTrades (loc : Location) : KlineHandler → List Trade → KlineHandler × List Kline
  | h, [] => (h, [])
  | h, trade :: trades =>
      let next := h.handleTrade loc trade
      let rest := next.1.handleTrades loc trades
      (rest.1, next.2 ++ rest.2)

/-- Every aggregator the handler uses for a maintained interval belongs to its symbol and
interval. -/
def Owns (h : KlineHandler) : Prop :=
  ∀ symbol, ∀ interval ∈ klineIntervals,
    (h.aggregatorAt symbol interval).symbol = symbol ∧
      (h.aggregatorAt symbol interval).interval = interval ∧ (h.aggregatorAt symbol interval).Owns

theorem newKlineHandler_owns : newKlineHandler.Owns := fun _ _ _ =>
  ⟨rfl, rfl, fun _ none => by cases none⟩

theorem aggregatorAt_update (h : KlineHandler) (b : KlineAggregator) {symbol symbol' interval interval' : String}
    (mem : interval ∈ klineIntervals) (mem' : interval' ∈ klineIntervals) :
    aggregatorAt ⟨Function.update h.aggregators (symbol' ++ ":" ++ interval') (some b)⟩ symbol interval =
      if symbol' = symbol ∧ interval' = interval then b else h.aggregatorAt symbol interval := by
  simp only [aggregatorAt, Function.update_apply, klineKey_inj mem mem', eq_comm (a := symbol),
    eq_comm (a := interval)]
  split <;> rfl

/-- Replacing the trade's aggregator for a maintained interval by its `AddTrade` keeps every
aggregator owned. -/
theorem Owns.update_addTrade {h : KlineHandler} (owns : h.Owns) (loc : Location) (trade : Trade)
    {first : String} (firstMem : first ∈ klineIntervals) :
    Owns ⟨Function.update h.aggregators (trade.symbol ++ ":" ++ first)
      (some ((h.aggregatorAt trade.symbol first).addTrade loc trade).1)⟩ := by
  obtain ⟨ownSymbol, ownInterval, ownCandle⟩ := owns trade.symbol first firstMem
  intro symbol interval mem
  rw [aggregatorAt_update h _ mem firstMem]
  split
  · next same =>
    obtain ⟨rfl, rfl⟩ := same
    exact ⟨by simp [ownSymbol], by simp [ownInterval], ownCandle.addTrade loc trade⟩
  · exact owns symbol interval mem

/-- The candle one owned aggregator saves is filed under its own symbol and interval only. -/
theorem savedFor_addTrade {h : KlineHandler} (owns : h.Owns) (loc : Location) (trade : Trade)
    {first : String} (firstMem : first ∈ klineIntervals) (symbol interval : String) :
    savedFor symbol interval ((h.aggregatorAt trade.symbol first).addTrade loc trade).2.toList =
      if trade.symbol = symbol ∧ first = interval then
        ((h.aggregatorAt trade.symbol first).addTrade loc trade).2.toList
      else [] := by
  obtain ⟨ownSymbol, ownInterval, ownCandle⟩ := owns trade.symbol first firstMem
  cases saved : ((h.aggregatorAt trade.symbol first).addTrade loc trade).2 with
  | none => simp [savedFor]
  | some c =>
    obtain ⟨current, -⟩ := addTrade_saved saved
    obtain ⟨cSymbol, cInterval⟩ := ownCandle c current
    have sameKey : (c.symbol = symbol ∧ c.interval = interval) ↔
        (trade.symbol = symbol ∧ first = interval) := by
      rw [cSymbol, cInterval, ownSymbol, ownInterval]
    by_cases both : trade.symbol = symbol ∧ first = interval <;> simp [savedFor, sameKey, both]

/-- One pass of the loop over the maintained intervals updates only the trade's own aggregators,
each by `AddTrade`, and saves, for each symbol and interval, what that aggregator saves. -/
theorem handleIntervals_spec (loc : Location) (trade : Trade) (symbol : String) :
    ∀ (h : KlineHandler) (intervals : List String), h.Owns → intervals ⊆ klineIntervals →
      intervals.Nodup →
      (handleIntervals loc trade h intervals).1.Owns ∧
      (∀ interval ∈ klineIntervals, (handleIntervals loc trade h intervals).1.aggregatorAt symbol interval =
        if trade.symbol = symbol ∧ interval ∈ intervals then
          ((h.aggregatorAt symbol interval).addTrade loc trade).1
        else h.aggregatorAt symbol interval) ∧
      ∀ interval, savedFor symbol interval (handleIntervals loc trade h intervals).2 =
        if trade.symbol = symbol ∧ interval ∈ intervals then
          ((h.aggregatorAt symbol interval).addTrade loc trade).2.toList
        else []
  | h, [], owns, _, _ => ⟨owns, fun _ _ => by simp [handleIntervals], fun _ => by simp [handleIntervals]⟩
  | h, first :: rest, owns, within, nodup => by
    obtain ⟨firstMem, restWithin⟩ := List.cons_subset.mp within
    obtain ⟨firstFresh, restNodup⟩ := List.nodup_cons.mp nodup
    set result := (h.aggregatorAt trade.symbol first).addTrade loc trade with resultEq
    set updated : KlineHandler :=
      ⟨Function.update h.aggregators (trade.symbol ++ ":" ++ first) (some result.1)⟩
    obtain ⟨restOwns, restAt, restSaved⟩ := handleIntervals_spec loc trade symbol updated rest
      (owns.update_addTrade loc trade firstMem) restWithin restNodup
    -- an interval is handled by this turn, by a later one, or by none, never by two
    have notMem : ∀ {interval}, ¬(trade.symbol = symbol ∧ interval ∈ rest) →
        ¬(trade.symbol = symbol ∧ first = interval) →
        ¬(trade.symbol = symbol ∧ interval ∈ first :: rest) := fun later here ⟨sym, mem⟩ =>
      (List.mem_cons.mp mem).elim (fun same => here ⟨sym, same.symm⟩)
        (fun inRest => later ⟨sym, inRest⟩)
    refine ⟨restOwns, fun interval mem => ?_, fun interval => ?_⟩
    · rw [show handleIntervals loc trade h (first :: rest) =
          ((handleIntervals loc trade updated rest).1, _) from rfl, restAt interval mem,
        aggregatorAt_update h result.1 mem firstMem]
      by_cases later : trade.symbol = symbol ∧ interval ∈ rest
      · have : first ≠ interval := fun same => firstFresh (same ▸ later.2)
        simp [later, this]
      · by_cases here : trade.symbol = symbol ∧ first = interval
        · obtain ⟨rfl, rfl⟩ := here
          simp [firstFresh, resultEq]
        · rw [if_neg later, if_neg here, if_neg (notMem later here)]
    · rw [show handleIntervals loc trade h (first :: rest) =
          (_, result.2.toList ++ (handleIntervals loc trade updated rest).2) from rfl,
        savedFor_append, savedFor_addTrade owns loc trade firstMem, restSaved]
      by_cases later : trade.symbol = symbol ∧ interval ∈ rest
      · have : first ≠ interval := fun same => firstFresh (same ▸ later.2)
        simp [later, this, aggregatorAt_update h result.1 (restWithin later.2) firstMem]
      · by_cases here : trade.symbol = symbol ∧ first = interval
        · obtain ⟨rfl, rfl⟩ := here
          simp [firstFresh, resultEq]
        · rw [if_neg later, if_neg here, if_neg (notMem later here), List.append_nil]

theorem klineIntervals_nodup : klineIntervals.Nodup := by
  decide

/-- The handler is the independent aggregators, one per symbol and maintained interval, each
fed the trades of its symbol in order; it saves nothing for an interval it does not maintain. -/
theorem handleTrades_spec (loc : Location) (symbol : String) :
    ∀ (h : KlineHandler) (trades : List Trade), h.Owns →
      (∀ interval ∈ klineIntervals, (h.handleTrades loc trades).1.aggregatorAt symbol interval =
        ((h.aggregatorAt symbol interval).addTrades loc
          (trades.filter (·.symbol = symbol))).1) ∧
      ∀ interval, savedFor symbol interval (h.handleTrades loc trades).2 =
        if interval ∈ klineIntervals then
          ((h.aggregatorAt symbol interval).addTrades loc (trades.filter (·.symbol = symbol))).2
        else []
  | h, [], _ => ⟨fun _ _ => rfl, fun _ => by split <;> rfl⟩
  | h, trade :: trades, owns => by
    obtain ⟨nextOwns, nextAt, nextSaved⟩ :=
      handleIntervals_spec loc trade symbol h klineIntervals owns (List.Subset.refl _)
        klineIntervals_nodup
    obtain ⟨restAt, restSaved⟩ := handleTrades_spec loc symbol _ trades nextOwns
    set next := handleIntervals loc trade h klineIntervals
    have unfolded : h.handleTrades loc (trade :: trades) =
        ((handleTrades loc next.1 trades).1, next.2 ++ (handleTrades loc next.1 trades).2) :=
      rfl
    refine ⟨fun interval mem => ?_, fun interval => ?_⟩
    · rw [unfolded]
      dsimp only
      rw [restAt interval mem, nextAt interval mem, List.filter_cons]
      by_cases same : trade.symbol = symbol <;> simp [same, mem, KlineAggregator.addTrades]
    · rw [unfolded]
      dsimp only
      rw [savedFor_append, restSaved, nextSaved, List.filter_cons]
      by_cases mem : interval ∈ klineIntervals
      · rw [nextAt interval mem]
        by_cases same : trade.symbol = symbol <;> simp [same, mem, KlineAggregator.addTrades]
      · simp [mem]

/-- In a zone with one offset, when the trades of each symbol arrive with non-decreasing
timestamps, the candles handed to `SaveKline` for each symbol and interval have strictly
increasing open times. -/
theorem handleTrades_saved_strictMono (offset : Int) (trades : List Trade)
    (ordered : trades.Pairwise fun first second =>
      first.symbol = second.symbol → first.timestamp ≤ second.timestamp)
    (symbol interval : String) :
    ((savedFor symbol interval (newKlineHandler.handleTrades (.fixed offset) trades).2).map
      (·.openTime)).Pairwise (· < ·) := by
  rw [(handleTrades_spec (.fixed offset) symbol newKlineHandler trades newKlineHandler_owns).2]
  split
  · have sorted := @candles_openTime_strictMono (.fixed offset)
      (newKlineHandler.aggregatorAt symbol interval) _
      (getKlineOpenTime_fixed_monotone offset _)
      ((ordered.filter fun trade => decide (trade.symbol = symbol)).imp_of_mem
        fun first second earlier => by
          simp only [List.mem_filter, decide_eq_true_eq] at first second
          exact earlier (first.2.trans second.2.symm))
      (fun _ none => by cases none)
    exact sorted.sublist ((List.sublist_append_left _ _).map _)
  · exact List.Pairwise.nil

/-- Every candle the handler saves is for a maintained interval. -/
theorem interval_mem_of_mem_handleTrades {loc : Location} {h : KlineHandler} (owns : h.Owns)
    {trades : List Trade} {k : Kline} (mem : k ∈ (h.handleTrades loc trades).2) :
    k.interval ∈ klineIntervals := by
  by_contra notMem
  have saved := (handleTrades_spec loc k.symbol h trades owns).2 k.interval
  rw [if_neg notMem] at saved
  have : k ∈ savedFor k.symbol k.interval (h.handleTrades loc trades).2 := by
    simp [savedFor, mem]
  rw [saved] at this
  cases this

end KlineHandler

open KlineHandler

/-! ## The candles in Redis -/

/-- The list `SaveKline` pushes the candles of a symbol and an interval on. -/
def klineKey (symbol interval : String) : String :=
  redisKeyKline ++ symbol ++ ":" ++ interval

theorem klineKey_eq_iff {symbol symbol' interval interval' : String}
    (mem : interval ∈ klineIntervals) (mem' : interval' ∈ klineIntervals) :
    klineKey symbol interval = klineKey symbol' interval' ↔ symbol = symbol' ∧ interval = interval' := by
  refine ⟨fun same => ?_, fun ⟨rfl, rfl⟩ => rfl⟩
  obtain ⟨prefixed, rfl⟩ := (klineKey_inj mem mem').mp same
  have := congrArg String.data prefixed
  simp only [String.data_append] at this
  exact ⟨String.ext (List.append_cancel_left this), rfl⟩

theorem klineKey_ne_tradeKey (symbol interval symbol' : String) :
    klineKey symbol interval ≠ redisKeyTrade ++ symbol' := by
  intro same
  have := congrArg (fun key : String => key.data.head?) same
  simp only [klineKey, String.data_append, List.append_assoc,
    show redisKeyKline.data = 'k' :: "line:".data from rfl,
    show redisKeyTrade.data = 't' :: "rade:".data from rfl, List.cons_append,
    List.head?_cons, Option.some.injEq] at this
  exact absurd this (by decide)

/-- A colon and colon-free text end a colon and colon-free text only when the two are equal. -/
theorem colon_suffix_eq {i j : List Char} (colonFree : ':' ∉ j)
    (suffix : (':' :: i) <:+ (':' :: j)) : i = j := by
  rcases List.suffix_cons_iff.mp suffix with same | inner
  · exact (List.cons.inj same).2
  · exact absurd (inner.subset (List.mem_cons_self _ _)) colonFree

/-- Two candle keys whose intervals have no colon name the same interval. -/
theorem klineKey_interval_eq {symbol symbol' interval interval' : String}
    (colonFree : ':' ∉ interval.data) (colonFree' : ':' ∉ interval'.data)
    (same : klineKey symbol interval = klineKey symbol' interval') : interval = interval' := by
  have data : (redisKeyKline.data ++ symbol.data) ++ ':' :: interval.data =
      (redisKeyKline.data ++ symbol'.data) ++ ':' :: interval'.data := by
    simpa only [klineKey, String.data_append, List.append_assoc, List.singleton_append] using
      congrArg String.data same
  rcases List.suffix_or_suffix_of_suffix (List.suffix_append _ _)
      (data ▸ List.suffix_append _ _) with suffix | suffix
  · exact (String.ext (colon_suffix_eq colonFree suffix)).symm
  · exact String.ext (colon_suffix_eq colonFree' suffix)

theorem klineIntervals_colonFree : ∀ interval ∈ klineIntervals, ':' ∉ interval.data := by
  decide

/-- `LPUSH` of a candle's encoding followed by `LTRIM` to the newest 1000. -/
def pushKline (list : List Json) (k : Kline) : List Json :=
  (k.toJson :: list).take 1000

/-- `SaveKline` on a sequence of candles of maintained intervals changes each symbol's and
interval's list by pushing exactly that symbol's and interval's candles. -/
theorem lists_foldl_saveKline {candles : List Kline}
    (maintained : ∀ k ∈ candles, k.interval ∈ klineIntervals) (st : RedisState)
    {symbol interval : String} (mem : interval ∈ klineIntervals) :
    (candles.foldl saveKline st).lists (klineKey symbol interval) =
      (savedFor symbol interval candles).foldl pushKline (st.lists (klineKey symbol interval)) := by
  induction candles generalizing st with
  | nil => rfl
  | cons k candles ih =>
    rw [List.foldl_cons, ih (fun k mem => maintained k (List.mem_cons_of_mem _ mem)),
      saveKline_lists, RedisState.pushTrim_lists]
    have key := @klineKey_eq_iff symbol k.symbol interval k.interval mem
      (maintained k (List.mem_cons_self _ _))
    by_cases same : k.symbol = symbol ∧ k.interval = interval
    · obtain ⟨rfl, rfl⟩ := same
      simp [savedFor, pushKline, klineKey]
    · have differs : klineKey symbol interval ≠ klineKey k.symbol k.interval :=
        fun eq => same (by obtain ⟨rfl, rfl⟩ := key.mp eq; exact ⟨rfl, rfl⟩)
      simp only [klineKey] at differs
      simp [savedFor, differs, same, klineKey]

/-- Pushing onto a list of at most 1000 entries keeps the newest 1000, newest first. -/
theorem foldl_pushKline (candles : List Kline) {list : List Json} (short : list.length ≤ 1000) :
    candles.foldl pushKline list = ((candles.reverse.map Kline.toJson) ++ list).take 1000 := by
  induction candles generalizing list with
  | nil => simp [List.take_of_length_le short]
  | cons k candles ih =>
    rw [List.foldl_cons, ih (by simp [pushKline])]
    simp only [pushKline, List.reverse_cons, List.map_append, List.map_cons, List.map_nil,
      List.append_assoc, List.singleton_append]
    rw [List.take_append_eq_append_take, List.take_append_eq_append_take, List.take_take,
      Nat.min_eq_left (Nat.sub_le _ _)]

/-! ## The trade topic -/

/-- What the trade topic's handler works on. -/
structure TradePipeline where
  storage : RedisState
  klineHandler : KlineHandler

def newTradePipeline : TradePipeline :=
  ⟨RedisState.empty, newKlineHandler⟩

/-- The trade the handler rebuilds from a record whose payload is an object. -/
def decodeTrade (d : MarketData) : Option Trade :=
  (payloadObject d).map fun tradeMap => parseTradeFromMap tradeMap d.symbol

/-- The trade topic's handler: `SaveTrade`, then `HandleTrade`, whose `SaveKline` calls follow in
order. -/
def handleTradeRecord (loc : Location) (p : TradePipeline) (d : MarketData) : TradePipeline :=
  match decodeTrade d with
  | some trade =>
      let result := p.klineHandler.handleTrade loc trade
      ⟨result.2.foldl saveKline (saveTrade p.storage trade), result.1⟩
  | none => p

/-- The handler over a sequence of records. -/
def handleTradeRecords (loc : Location) (p : TradePipeline) (records : List MarketData) :
    TradePipeline :=
  records.foldl (handleTradeRecord loc) p

/-- The pipeline is the kline handler run on the decoded trades, with each symbol's and
interval's Redis list receiving exactly the candles saved for them. -/
theorem handleTradeRecords_spec (loc : Location) :
    ∀ (records : List MarketData) (p : TradePipeline), p.klineHandler.Owns →
      (handleTradeRecords loc p records).klineHandler =
          (p.klineHandler.handleTrades loc (records.filterMap decodeTrade)).1 ∧
        ∀ symbol, ∀ interval ∈ klineIntervals,
          (handleTradeRecords loc p records).storage.lists (klineKey symbol interval) =
            (savedFor symbol interval
              (p.klineHandler.handleTrades loc (records.filterMap decodeTrade)).2).foldl pushKline
              (p.storage.lists (klineKey symbol interval))
  | [], p, _ => ⟨rfl, fun _ _ _ => rfl⟩
  | d :: records, p, owns => by
    cases decoded : decodeTrade d with
    | none =>
      have := handleTradeRecords_spec loc records p owns
      simpa [handleTradeRecords, handleTradeRecord, decoded] using this
    | some trade =>
      set result := p.klineHandler.handleTrade loc trade
      have resultOwns : result.1.Owns :=
        (handleIntervals_spec loc trade "" p.klineHandler klineIntervals owns
          (List.Subset.refl _) klineIntervals_nodup).1
      obtain ⟨restHandler, restLists⟩ :=
        handleTradeRecords_spec loc records ⟨result.2.foldl saveKline (saveTrade p.storage trade), result.1⟩
          resultOwns
      have unfolded : handleTradeRecords loc p (d :: records) =
          handleTradeRecords loc ⟨result.2.foldl saveKline (saveTrade p.storage trade), result.1⟩
            records := by
        simp [handleTradeRecords, handleTradeRecord, decoded, result]
      have trades : (d :: records).filterMap decodeTrade = trade :: records.filterMap decodeTrade := by
        simp [decoded]
      refine ⟨by rw [unfolded, restHandler, trades]; rfl, fun symbol interval mem => ?_⟩
      have maintained : ∀ k ∈ result.2, k.interval ∈ klineIntervals := fun k saved =>
        @interval_mem_of_mem_handleTrades loc p.klineHandler owns [trade] k
          (by simpa [handleTrades] using saved)
      rw [unfolded, restLists symbol interval mem, lists_foldl_saveKline maintained _ mem, trades]
      have untouched : (saveTrade p.storage trade).lists (klineKey symbol interval) =
          p.storage.lists (klineKey symbol interval) := by
        simp [RedisState.pushTrim_lists, klineKey_ne_tradeKey]
      rw [untouched, ← List.foldl_append, ← savedFor_append]
      rfl

/-- The candles of a symbol and an interval that the kline handler hands to `SaveKline` while
the trade topic's handler consumes `records` from the start. -/
def savedKlines (loc : Location) (records : List MarketData) (symbol interval : String) :
    List Kline :=
  savedFor symbol interval (newKlineHandler.handleTrades loc (records.filterMap decodeTrade)).2

/-- Started from an empty store, each maintained list `kline:{symbol}:{interval}` holds the
newest 1000 candles saved for it, newest first. -/
theorem newTradePipeline_klines (loc : Location) (records : List MarketData) (symbol : String)
    {interval : String} (mem : interval ∈ klineIntervals) :
    (handleTradeRecords loc newTradePipeline records).storage.lists (klineKey symbol interval) =
      ((savedKlines loc records symbol interval).reverse.map Kline.toJson).take 1000 := by
  rw [(handleTradeRecords_spec loc records newTradePipeline newKlineHandler_owns).2 symbol interval
      mem, foldl_pushKline _ (by simp [newTradePipeline, RedisState.empty])]
  simp [savedKlines, newTradePipeline, RedisState.empty]

/-- A trade record as the processor consumes it: the collector's record, encoded and decoded. -/
def tradeRecord (exchange source : String) (timestamp : Int) : MarketData :=
  MarketData.roundTrip
    ⟨exchange, "BTCUSDT", dataTypeTrade, source, timestamp,
      .trade ⟨"BTCUSDT", "1", 45000, 1, sideBuy, timestamp⟩⟩

/-- Binance trades at 60000 ms and 60001 ms with an internal trade at 59999 ms between them. -/
def interleavedRecords : List MarketData :=
  [tradeRecord exchangeBinance "" 60000, tradeRecord exchangeInternal sourceInternal 59999,
    tradeRecord exchangeBinance "" 60001]

end Processor

end MarketSystem
