import MarketSystem.Processor.Bus
import MarketSystem.Processor.Storage

/-!
# The processor's order books

`DepthHandler.HandleDepth` keeps one `DepthManager` per symbol, made on the symbol's first book.
`UpdateDepth` replaces both sides of the manager's book by the record's, sorts them
(`sortDepth`) and hands the book to `SaveDepth`.  Each call runs under the manager's lock, so the
calls of a run take effect one after another: a run is a list of books.  `sort.Slice` is
modelled by its contract, as for the merger (`LevelSorter`).

Nothing on the way cuts a side.  The internal adapter accepts books of any depth, and a symbol
without a configuration passes the merger unchanged, so a book of the trading engine is stored
with as many levels as it was posted with.
-/

namespace MarketSystem

namespace Processor

open Adapters Merger

/-- `sort.Slice` on the levels of a book, by its contract (see `SliceSorter`): a permutation of
the levels, sorted by the comparison. -/
structure LevelSorter where
  sort : (PriceLevel → PriceLevel → Bool) → List PriceLevel → List PriceLevel
  perm : ∀ less levels, (sort less levels).Perm levels
  sortedAsc : ∀ levels, (sort (fun a b => a.price < b.price) levels).Pairwise
    fun a b => a.price ≤ b.price
  sortedDesc : ∀ levels, (sort (fun a b => a.price > b.price) levels).Pairwise
    fun a b => b.price ≤ a.price

/-- `DepthManager`: the book of one symbol, bids from the highest price and asks from the
lowest. -/
structure DepthManager where
  symbol : String
  bids : List PriceLevel
  asks : List PriceLevel

/-- `NewDepthManager`. -/
def newDepthManager (symbol : String) : DepthManager :=
  ⟨symbol, [], []⟩

/-- `GetBestBid`: the first bid, `nil` when there is none. -/
def DepthManager.getBestBid (m : DepthManager) : Option PriceLevel :=
  m.bids.head?

/-- `GetBestAsk`: the first ask, `nil` when there is none. -/
def DepthManager.getBestAsk (m : DepthManager) : Option PriceLevel :=
  m.asks.head?

/-- `GetSpread`: the best ask's price less the best bid's, `0` when either is `nil`.
`GetBestBid` and `GetBestAsk` each take the manager's read lock on their own, so an `UpdateDepth`
may run between them: the bid is read from the manager as the first lock section finds it and
the ask from the manager as the second finds it.  The level a call returns points into the
slice of that moment, which a later `UpdateDepth` replaces rather than writes. -/
def DepthManager.getSpread (atBid atAsk : DepthManager) : ℚ :=
  match atBid.getBestBid, atAsk.getBestAsk with
  | some bid, some ask => ask.price - bid.price
  | _, _ => 0

/-- `DepthHandler`: the managers by symbol, and the storage they save to. -/
structure DepthHandler where
  managers : String → Option DepthManager
  storage : RedisState

/-- `NewDepthHandler`. -/
def newDepthHandler (storage : RedisState) : DepthHandler :=
  ⟨fun _ => none, storage⟩

section Handler

variable (sorter : LevelSorter)

/-- `sortDepth`. -/
def DepthManager.sortDepth (m : DepthManager) : DepthManager :=
  { m with
    bids := sorter.sort (fun a b => a.price > b.price) m.bids
    asks := sorter.sort (fun a b => a.price < b.price) m.asks }

/-- `UpdateDepth`: replace both sides, sort them, and save the book under the manager's symbol
with the record's time.  Redis failures are left out, as in `Storage`. -/
def DepthManager.updateDepth (m : DepthManager) (storage : RedisState) (depth : OrderBook) :
    DepthManager × RedisState :=
  let m := ({ m with bids := depth.bids, asks := depth.asks } : DepthManager).sortDepth sorter
  (m, saveDepth storage ⟨m.symbol, m.bids, m.asks, depth.timestamp⟩)

/-- `HandleDepth`: the manager of the book's symbol, made if there is none, updates it. -/
def DepthHandler.handleDepth (h : DepthHandler) (depth : OrderBook) : DepthHandler :=
  let (manager, storage) :=
    ((h.managers depth.symbol).getD (newDepthManager depth.symbol)).updateDepth sorter h.storage
      depth
  ⟨Function.update h.managers depth.symbol (some manager), storage⟩

/-- A run of `HandleDepth` calls. -/
def DepthHandler.handleDepths (h : DepthHandler) (books : List OrderBook) : DepthHandler :=
  books.foldl (·.handleDepth sorter ·) h

/-- The manager a book leaves behind for its symbol: the book's levels, sorted. -/
def DepthManager.ofBook (depth : OrderBook) : DepthManager :=
  ⟨depth.symbol, sorter.sort (fun a b => a.price > b.price) depth.bids,
    sorter.sort (fun a b => a.price < b.price) depth.asks⟩

/-- Every manager is filed under its own symbol. -/
def DepthHandler.WellKeyed (h : DepthHandler) : Prop :=
  ∀ symbol m, h.managers symbol = some m → m.symbol = symbol

omit sorter in
theorem wellKeyed_newDepthHandler (storage : RedisState) : (newDepthHandler storage).WellKeyed :=
  fun _ _ found => nomatch found

/-- One call: under a well-keyed map, the book's symbol gets the book's sorted levels and is
saved with them; no other symbol is touched. -/
theorem handleDepth_eq {h : DepthHandler} (keyed : h.WellKeyed) (depth : OrderBook) :
    h.handleDepth sorter depth =
      ⟨Function.update h.managers depth.symbol (some (DepthManager.ofBook sorter depth)),
        saveDepth h.storage ⟨depth.symbol, (DepthManager.ofBook sorter depth).bids,
          (DepthManager.ofBook sorter depth).asks, depth.timestamp⟩⟩ := by
  have named : ((h.managers depth.symbol).getD (newDepthManager depth.symbol)).symbol =
      depth.symbol := by
    cases found : h.managers depth.symbol with
    | none => rfl
    | some m => exact keyed _ m found
  simp only [DepthHandler.handleDepth, DepthManager.updateDepth, DepthManager.sortDepth, named]
  rfl

theorem DepthHandler.WellKeyed.handleDepth {h : DepthHandler} (keyed : h.WellKeyed) (depth : OrderBook) :
    (h.handleDepth sorter depth).WellKeyed := by
  intro symbol m found
  simp only [handleDepth_eq sorter keyed, Function.update_apply] at found
  split_ifs at found with same
  · cases found
    exact same.symm
  · exact keyed symbol m found

/-- The latest book of `symbol` in a run. -/
def latestBook (symbol : String) (books : List OrderBook) : Option OrderBook :=
  (books.filter (·.symbol = symbol)).getLast?

omit sorter in
theorem latestBook_cons (symbol : String) (depth : OrderBook) (books : List OrderBook) :
    latestBook symbol (depth :: books) =
      (latestBook symbol books).or (if depth.symbol = symbol then some depth else none) := by
  unfold latestBook
  rw [List.filter_cons]
  by_cases same : depth.symbol = symbol
  · rw [if_pos (decide_eq_true same), List.getLast?_cons, if_pos same]
    cases (books.filter (·.symbol = symbol)).getLast? <;> rfl
  · simp [same]

omit sorter in
theorem redisKeyDepth_append_inj {a b : String} (same : redisKeyDepth ++ a = redisKeyDepth ++ b) :
    a = b := by
  have chars := congrArg String.data same
  simp only [String.data_append, List.append_cancel_left_eq] at chars
  exact String.ext chars

/-- A run from a well-keyed handler: each symbol's manager and stored book are those of its
latest book, or as they were when the run has none. -/
theorem handleDepths_spec (books : List OrderBook) :
    ∀ {h : DepthHandler}, h.WellKeyed →
      (h.handleDepths sorter books).WellKeyed ∧ ∀ symbol,
        (h.handleDepths sorter books).managers symbol =
          ((latestBook symbol books).map (DepthManager.ofBook sorter)).or (h.managers symbol) ∧
        (h.handleDepths sorter books).storage.strings (redisKeyDepth ++ symbol) =
          ((latestBook symbol books).map fun latest =>
            OrderBook.toJson ⟨symbol, (DepthManager.ofBook sorter latest).bids,
              (DepthManager.ofBook sorter latest).asks, latest.timestamp⟩).or
            (h.storage.strings (redisKeyDepth ++ symbol)) := by
  induction books with
  | nil => intro h keyed; exact ⟨keyed, fun _ => ⟨rfl, rfl⟩⟩
  | cons depth books ih =>
      intro h keyed
      obtain ⟨keyedAfter, after⟩ := ih (keyed.handleDepth sorter depth)
      refine ⟨keyedAfter, fun symbol => ?_⟩
      obtain ⟨managers, strings⟩ := after symbol
      simp only [DepthHandler.handleDepths, List.foldl_cons] at managers strings ⊢
      rw [managers, strings, handleDepth_eq sorter keyed, latestBook_cons]
      by_cases same : depth.symbol = symbol
      · subst same
        cases latestBook depth.symbol books <;> simp
      · have key : redisKeyDepth ++ symbol ≠ redisKeyDepth ++ depth.symbol :=
          fun equal => same (redisKeyDepth_append_inj equal).symm
        simp [same, Ne.symm same, key, Function.update_apply]

/-- What the latest book of a symbol makes of the symbol's manager: the same symbol, and each
side a permutation of the book's, bids from the highest price and asks from the lowest. -/
structure SortedBook (latest : OrderBook) (m : DepthManager) : Prop where
  symbol : m.symbol = latest.symbol
  bidsPerm : m.bids.Perm latest.bids
  asksPerm : m.asks.Perm latest.asks
  bidsSorted : m.bids.Pairwise fun a b => b.price ≤ a.price
  asksSorted : m.asks.Pairwise fun a b => a.price ≤ b.price

theorem sortedBook_ofBook (depth : OrderBook) :
    SortedBook depth (DepthManager.ofBook sorter depth) :=
  ⟨rfl, sorter.perm _ _, sorter.perm _ _, sorter.sortedDesc _, sorter.sortedAsc _⟩

/-- A book the trading engine posts with 101 bids. -/
def wideDepth : InternalAdapter.InternalDepthMessage :=
  ⟨"BTCUSDT", List.replicate 101 ⟨45000, 1⟩, [], 1700000000000⟩

theorem stored_book_exceeds_limit :
    ∃ d, (InternalAdapter.handleDepth "POST" (some wideDepth)).record = some d ∧
      ((newDataMerger []).processData mergeSorter (clockAt 0) d).2 = some d ∧
      publishAndConsume d =
        some (.depth ⟨"BTCUSDT", List.replicate 101 ⟨45000, 1⟩, [], 1700000000000⟩) ∧
      ∃ m, ((newDepthHandler .empty).handleDepth sorter
          ⟨"BTCUSDT", List.replicate 101 ⟨45000, 1⟩, [], 1700000000000⟩).managers "BTCUSDT" =
          some m ∧ 100 < m.bids.length ∧
        ((newDepthHandler .empty).handleDepth sorter
          ⟨"BTCUSDT", List.replicate 101 ⟨45000, 1⟩, [], 1700000000000⟩).storage.strings
            (redisKeyDepth ++ "BTCUSDT") =
          some (OrderBook.toJson ⟨"BTCUSDT", m.bids, m.asks, 1700000000000⟩) := by
  refine ⟨_, rfl, rfl, ?_, ?_⟩
  · show some (Rebuilt.depth (parseDepthFromMap (OrderBook.toJson
      ⟨"BTCUSDT", List.replicate 101 ⟨45000, 1⟩, [], 1700000000000⟩) "BTCUSDT" 1700000000000)) = _
    rw [parseDepthFromMap_toJson]
  · rw [handleDepth_eq sorter (wellKeyed_newDepthHandler _)]
    refine ⟨DepthManager.ofBook sorter
      ⟨"BTCUSDT", List.replicate 101 ⟨45000, 1⟩, [], 1700000000000⟩, ?_, ?_, ?_⟩
    · simp only [Function.update_same]
    · rw [DepthManager.ofBook, (sorter.perm _ _).length_eq, List.length_replicate]
      decide
    · simp only [saveDepth_strings, Function.update_same]

end Handler

end Processor

end MarketSystem
