import MarketSystem.Processor.Kline
import Mathlib.Data.List.Chain

/-!
# One candle per run of trades

An aggregator fed a sequence of trades splits it into maximal runs of consecutive trades with
one open time, and builds one candle per run: `AddTrade` closes the candle being built exactly
when a trade's open time differs from the candle's, whatever the direction of the change.  This
file states the candle of a run from the run itself (its first and last prices, its extreme
prices, its sums and its length) and proves that the candles an aggregator saves, followed by
the one it is still building, are those candles, one per run and in order.  Prices and sums
are exact rationals.
-/

namespace MarketSystem

namespace Processor

open KlineAggregator

/-- The open time of a trade's candle for an interval. -/
def tradeOpenTime (loc : Location) (interval : String) (trade : Trade) : Int :=
  getKlineOpenTime loc trade.timestamp interval

/-! ## The maximal runs -/

/-- The maximal runs of trades with one key, each as its first trade and the others, when the
run `first :: rest` is still open. -/
def runsFrom (key : Trade → Int) (first : Trade) (rest : List Trade) :
    List Trade → List (Trade × List Trade)
  | [] => [(first, rest)]
  | trade :: trades =>
      if key trade = key first then runsFrom key first (rest ++ [trade]) trades
      else (first, rest) :: runsFrom key trade [] trades

/-- The maximal runs of consecutive trades with one key, in order. -/
def tradeRuns (key : Trade → Int) : List Trade → List (Trade × List Trade)
  | [] => []
  | trade :: trades => runsFrom key trade [] trades

/-- `runs` split `trades` into maximal runs of one key: read in order they give back the
trades, every trade of a run has the key of the run's first trade, and neighbouring runs have
different keys. -/
structure MaximalRuns (key : Trade → Int) (trades : List Trade)
    (runs : List (Trade × List Trade)) : Prop where
  flatten : (runs.map fun run => run.1 :: run.2).flatten = trades
  sameKey : ∀ run ∈ runs, ∀ trade ∈ run.2, key trade = key run.1
  maximal : runs.Chain' fun run next => key run.1 ≠ key next.1

theorem runsFrom_head (key : Trade → Int) (first : Trade) (trades : List Trade) :
    ∀ rest, ((runsFrom key first rest trades).head?).map (·.1) = some first := by
  induction trades generalizing first with
  | nil => intro rest; rfl
  | cons trade trades ih =>
      intro rest
      simp only [runsFrom]
      split
      · exact ih first _
      · rfl

theorem runsFrom_maximal (key : Trade → Int) (trades : List Trade) :
    ∀ first rest, (∀ trade ∈ rest, key trade = key first) →
      MaximalRuns key (first :: rest ++ trades) (runsFrom key first rest trades) := by
  induction trades with
  | nil =>
      intro first rest sameKey
      exact ⟨by simp [runsFrom], by simpa [runsFrom] using sameKey, List.chain'_singleton _⟩
  | cons trade trades ih =>
      intro first rest sameKey
      simp only [runsFrom]
      split
      · next same =>
          have extended := ih first (rest ++ [trade]) fun other mem =>
            (List.mem_append.mp mem).elim (sameKey other) fun last => by
              rw [List.mem_singleton.mp last]; exact same
          simpa using extended
      · next differs =>
          obtain ⟨flatten, later, maximal⟩ := ih trade [] (by simp)
          refine ⟨by simpa using flatten, ?_, ?_⟩
          · intro run mem
            rcases List.mem_cons.mp mem with rfl | mem
            · exact sameKey
            · exact later run mem
          · refine List.chain'_cons'.mpr ⟨fun next mem => ?_, maximal⟩
            have head := runsFrom_head key trade trades []
            rw [mem, Option.map_some', Option.some.injEq] at head
            rw [head]
            exact Ne.symm differs

theorem tradeRuns_maximal (key : Trade → Int) (trades : List Trade) :
    MaximalRuns key trades (tradeRuns key trades) := by
  cases trades with
  | nil => exact ⟨rfl, by simp [tradeRuns], List.chain'_nil⟩
  | cons trade trades => simpa using runsFrom_maximal key trades trade [] (by simp)

/-! ## The candle of a run -/

/-- The price `updateKline` ends with when it starts from `init` and takes each price of
`trades` that is `better` than the one it holds. -/
def bestFrom (better : ℚ → ℚ → Prop) [DecidableRel better] (init : ℚ) (trades : List Trade) : ℚ :=
  trades.foldl (fun best trade => if better trade.price best then trade.price else best) init

theorem bestFrom_concat (better : ℚ → ℚ → Prop) [DecidableRel better] (init : ℚ)
    (trades : List Trade) (last : Trade) :
    bestFrom better init (trades ++ [last]) =
      if better last.price (bestFrom better init trades) then last.price
      else bestFrom better init trades := by
  simp [bestFrom, List.foldl_append]

section Best

variable (better : ℚ → ℚ → Prop) [DecidableRel better] (irrefl : ∀ a, ¬better a a)
  (trans : ∀ a b c, better a b → better b c → better a c)
  (notTrans : ∀ a b c, ¬better a b → ¬better b c → ¬better a c)

include irrefl trans notTrans

/-- The price kept is the starting one or a price of the trades, and neither the starting price
nor any price of the trades is better. -/
theorem bestFrom_spec (trades : List Trade) : ∀ init : ℚ,
    (bestFrom better init trades = init ∨ ∃ trade ∈ trades, bestFrom better init trades = trade.price) ∧
      ¬better init (bestFrom better init trades) ∧
      ∀ trade ∈ trades, ¬better trade.price (bestFrom better init trades) := by
  induction trades with
  | nil => intro init; exact ⟨.inl rfl, irrefl init, by simp⟩
  | cons trade trades ih =>
      intro init
      obtain ⟨found, notInit, notRest⟩ :=
        ih (if better trade.price init then trade.price else init)
      simp only [bestFrom, List.foldl_cons, List.mem_cons, exists_eq_or_imp, forall_eq_or_imp] at *
      by_cases takes : better trade.price init
      · simp only [takes, if_true] at found notInit notRest ⊢
        exact ⟨.inr (found.imp_right id), fun worse => notInit (trans _ _ _ takes worse), notInit,
          notRest⟩
      · simp only [takes, if_false] at found notInit notRest ⊢
        exact ⟨found.imp_right .inr, notInit, notTrans _ _ _ takes notInit, notRest⟩

/-- Over a run `first :: rest`, the price kept is a price of the run and no price of the run is
better. -/
theorem bestFrom_run (first : Trade) (rest : List Trade) :
    (∃ trade ∈ first :: rest, bestFrom better first.price rest = trade.price) ∧
      ∀ trade ∈ first :: rest, ¬better trade.price (bestFrom better first.price rest) := by
  obtain ⟨found, notFirst, notRest⟩ := bestFrom_spec better irrefl trans notTrans rest first.price
  refine ⟨?_, fun trade mem => ?_⟩
  · rcases found with same | ⟨trade, mem, same⟩
    · exact ⟨first, List.mem_cons_self _ _, same⟩
    · exact ⟨trade, List.mem_cons_of_mem _ mem, same⟩
  · rcases List.mem_cons.mp mem with rfl | mem
    · exact notFirst
    · exact notRest trade mem

end Best

/-- The candle of the run `first :: rest` opening at `openTime`: opened at the first price and
closed at the last, its highest and lowest prices, its amounts and quote amounts summed, and
its number of trades. -/
def runCandle (symbol interval : String) (openTime : Int) (first : Trade) (rest : List Trade) :
    Kline where
  symbol := symbol
  interval := interval
  openTime := openTime
  closeTime := getKlineCloseTime openTime interval
  open_ := first.price
  high := bestFrom (· > ·) first.price rest
  low := bestFrom (· < ·) first.price rest
  close := (rest.getLast?.getD first).price
  volume := ((first :: rest).map (·.amount)).sum
  quoteVol := ((first :: rest).map fun trade => trade.price * trade.amount).sum
  tradeNum := (first :: rest).length

@[simp]
theorem runCandle_openTime (symbol interval : String) (openTime : Int) (first : Trade)
    (rest : List Trade) : (runCandle symbol interval openTime first rest).openTime = openTime :=
  rfl

/-- The candle's high is the highest price of the run. -/
theorem runCandle_high (symbol interval : String) (openTime : Int) (first : Trade)
    (rest : List Trade) :
    (∃ trade ∈ first :: rest, (runCandle symbol interval openTime first rest).high = trade.price) ∧
      ∀ trade ∈ first :: rest, trade.price ≤ (runCandle symbol interval openTime first rest).high := by
  obtain ⟨found, bound⟩ := bestFrom_run (· > ·) (fun a => lt_irrefl a)
    (fun _ _ _ (first : _ > _) (second : _ > _) => lt_trans second first)
    (fun _ _ _ (first : ¬_ > _) (second : ¬_ > _) =>
      not_lt.mpr (le_trans (not_lt.mp first) (not_lt.mp second))) first rest
  exact ⟨found, fun trade mem => not_lt.mp (bound trade mem)⟩

/-- The candle's low is the lowest price of the run. -/
theorem runCandle_low (symbol interval : String) (openTime : Int) (first : Trade)
    (rest : List Trade) :
    (∃ trade ∈ first :: rest, (runCandle symbol interval openTime first rest).low = trade.price) ∧
      ∀ trade ∈ first :: rest, (runCandle symbol interval openTime first rest).low ≤ trade.price := by
  obtain ⟨found, bound⟩ := bestFrom_run (· < ·) (fun a => lt_irrefl a)
    (fun _ _ _ (first : _ < _) (second : _ < _) => lt_trans first second)
    (fun _ _ _ (first : ¬_ < _) (second : ¬_ < _) =>
      not_lt.mpr (le_trans (not_lt.mp second) (not_lt.mp first))) first rest
  exact ⟨found, fun trade mem => not_lt.mp (bound trade mem)⟩

/-- A candle's open and close lie between its low and its high. -/
theorem runCandle_bounds (symbol interval : String) (openTime : Int) (first : Trade)
    (rest : List Trade) :
    let k := runCandle symbol interval openTime first rest
    k.low ≤ k.open_ ∧ k.open_ ≤ k.high ∧ k.low ≤ k.close ∧ k.close ≤ k.high := by
  have last : rest.getLast?.getD first ∈ first :: rest := by
    cases found : rest.getLast? with
    | none => exact List.mem_cons_self _ _
    | some trade => exact List.mem_cons_of_mem _ (List.mem_of_getLast?_eq_some found)
  have high := (runCandle_high symbol interval openTime first rest).2
  have low := (runCandle_low symbol interval openTime first rest).2
  exact ⟨low first (List.mem_cons_self _ _), high first (List.mem_cons_self _ _), low _ last,
    high _ last⟩

theorem sum_concat (prices : List ℚ) (price : ℚ) : (prices ++ [price]).sum = prices.sum + price := by
  induction prices with
  | nil => simp
  | cons head prices ih => simp [ih, add_assoc]

/-- `updateKline` adds a trade to the end of the run. -/
theorem updateKline_runCandle (symbol interval : String) (openTime : Int) (first : Trade)
    (rest : List Trade) (trade : Trade) :
    updateKline (runCandle symbol interval openTime first rest) trade =
      runCandle symbol interval openTime first (rest ++ [trade]) := by
  simp only [updateKline, runCandle, bestFrom_concat, List.getLast?_concat, Option.getD_some,
    ← List.cons_append, List.map_append, List.map_cons, List.map_nil, sum_concat,
    List.length_append, List.length_singleton, Nat.cast_add, Nat.cast_one]

/-- `AddTrade` opens a candle and updates it with the trade: the candle of a one-trade run. -/
theorem updateKline_openKline (a : KlineAggregator) (openTime : Int) (trade : Trade) :
    updateKline (a.openKline openTime trade) trade =
      runCandle a.symbol a.interval openTime trade [] := by
  simp [updateKline, KlineAggregator.openKline, runCandle, bestFrom]

/-! ## The aggregator builds one candle per run -/

theorem addTrade_of_current (loc : Location) {a : KlineAggregator} {k : Kline}
    (current : a.currentKline = some k) (trade : Trade) :
    a.addTrade loc trade =
      if k.openTime = tradeOpenTime loc a.interval trade then
        ({ a with currentKline := some (updateKline k trade) }, none)
      else
        ({ a with currentKline := some (updateKline
            (a.openKline (tradeOpenTime loc a.interval trade) trade) trade) }, some k) := by
  simp only [KlineAggregator.addTrade, current, tradeOpenTime]

/-- An aggregator building the candle of the open run `first :: rest` builds, over further
trades, one candle per maximal run, starting with that one. -/
theorem candles_of_current (loc : Location) (trades : List Trade) :
    ∀ {a : KlineAggregator} {first : Trade} {rest : List Trade},
      a.currentKline =
        some (runCandle a.symbol a.interval (tradeOpenTime loc a.interval first) first rest) →
      candles loc a trades =
        (runsFrom (tradeOpenTime loc a.interval) first rest trades).map fun run =>
          runCandle a.symbol a.interval (tradeOpenTime loc a.interval run.1) run.1 run.2 := by
  induction trades with
  | nil => intro a first rest current; simp [candles, current, runsFrom]
  | cons trade trades ih =>
      intro a first rest current
      rw [candles_cons, addTrade_of_current loc current, runsFrom, runCandle_openTime]
      by_cases same : tradeOpenTime loc a.interval trade = tradeOpenTime loc a.interval first
      · rw [if_pos same.symm, if_pos same]
        exact ih (a := { a with currentKline := _ })
          (by rw [updateKline_runCandle])
      · rw [if_neg (Ne.symm same), if_neg same]
        simp only [Option.toList_some, List.singleton_append, List.map_cons]
        exact congrArg _ (ih (a := { a with currentKline := _ })
          (congrArg some (updateKline_openKline a _ trade)))

theorem candles_one_per_run (loc : Location) (symbol interval : String) (trades : List Trade) :
    MaximalRuns (tradeOpenTime loc interval) trades (tradeRuns (tradeOpenTime loc interval) trades) ∧
      candles loc (newKlineAggregator symbol interval) trades =
        (tradeRuns (tradeOpenTime loc interval) trades).map (fun run =>
          runCandle symbol interval (tradeOpenTime loc interval run.1) run.1 run.2) ∧
      ∀ k ∈ candles loc (newKlineAggregator symbol interval) trades,
        k.low ≤ k.open_ ∧ k.open_ ≤ k.high ∧ k.low ≤ k.close ∧ k.close ≤ k.high := by
  have built : candles loc (newKlineAggregator symbol interval) trades =
      (tradeRuns (tradeOpenTime loc interval) trades).map (fun run =>
        runCandle symbol interval (tradeOpenTime loc interval run.1) run.1 run.2) := by
    cases trades with
    | nil => rfl
    | cons trade trades =>
        rw [candles_cons]
        exact candles_of_current loc trades (a := { newKlineAggregator symbol interval with
          currentKline := _ }) (congrArg some (updateKline_openKline _ _ trade))
  refine ⟨tradeRuns_maximal _ _, built, ?_⟩
  rw [built]
  intro k mem
  obtain ⟨run, -, rfl⟩ := List.mem_map.mp mem
  exact runCandle_bounds ..

end Processor

end MarketSystem
