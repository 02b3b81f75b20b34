import MarketSystem.Processor.Stored

/-!
# Runs of the processor in which time passes

The keys the processor writes expire (`Storage`): the ticker hash, the book and the trade list of
a symbol an hour after they were last given a time to live, a candle list seven days after.  A
timed run interleaves the goroutines' fetches and sends with lapses of time, each of which
deletes the keys whose time to live it outlasts.  A run of `Consumers` is a timed run in which
no time passes.

Expiry changes a cell only by deleting it, and a cell's contents depend only on the commands
that write it.  So a timed run agrees with the run of its goroutine events alone on the
goroutines' state and on every cell that no lapse of the run has deleted (`timedRun_untimed`),
and each closed form of `Stored` holds of a timed run for every cell that has not expired
during it.  The hash of a ticker is the one key written without a time to live for a while:
`SaveTicker` sends its `EXPIRE` after its `HSET`, as a command of its own.
-/

namespace MarketSystem

namespace Processor

/-- What happens next in a timed run: an event of a goroutine, or `ms` milliseconds passing. -/
inductive TimedEvent where
  | event (event : ProcessorEvent)
  | elapse (ms : Nat)

/-- The goroutines' events of a timed run, in order. -/
def untimed (events : List TimedEvent) : List ProcessorEvent :=
  events.filterMap fun
    | .event event => some event
    | .elapse _ => none

/-- The goroutines' events with `ms` milliseconds passing after each. -/
def spaced (ms : Nat) (events : List ProcessorEvent) : List TimedEvent :=
  events.flatMap fun event => [.event event, .elapse ms]

@[simp]
theorem untimed_event (event : ProcessorEvent) (events : List TimedEvent) :
    untimed (.event event :: events) = event :: untimed events :=
  rfl

@[simp]
theorem untimed_elapse (ms : Nat) (events : List TimedEvent) :
    untimed (.elapse ms :: events) = untimed events :=
  rfl

section Timed

variable (sorter : LevelSorter) (loc : Location)

namespace ProcessorState

/-- `ms` milliseconds pass over the processor: Redis deletes the keys whose time runs out. -/
def elapse (s : ProcessorState) (ms : Nat) : ProcessorState :=
  { s with storage := s.storage.advance ms }

def timedStep (s : ProcessorState) : TimedEvent → Option ProcessorState
  | .event event => s.step sorter loc event
  | .elapse ms => some (s.elapse ms)

def timedRun (s : ProcessorState) : List TimedEvent → Option ProcessorState
  | [] => some s
  | event :: events => (s.timedStep sorter loc event).bind (·.timedRun events)

/-- Whether `cell` outlasts every lapse of time of a run from `s`, as far as the run goes. -/
def keeps (s : ProcessorState) (cell : Cell) : List TimedEvent → Bool
  | [] => true
  | .event event :: events =>
      match s.step sorter loc event with
      | some s' => s'.keeps cell events
      | none => true
  | .elapse ms :: events =>
      RedisState.survives (s.storage.ttl cell) ms && (s.elapse ms).keeps cell events

end ProcessorState

/-- Two processors alike but for their storage, whose cell `cell` holds the same contents in
both. -/
structure AgreeOn (cell : Cell) (s u : ProcessorState) : Prop where
  managers : s.managers = u.managers
  klineHandler : s.klineHandler = u.klineHandler
  pending : s.pending = u.pending
  read : s.storage.read cell = u.storage.read cell

namespace AgreeOn

variable {sorter loc}
variable {cell : Cell} {s u : ProcessorState}

theorem refl (cell : Cell) (s : ProcessorState) : AgreeOn cell s s :=
  ⟨rfl, rfl, rfl, rfl⟩

theorem idle (agree : AgreeOn cell s u) (idle : ∀ topic, s.pending topic = [])
    (topic : MarketTopic) : u.pending topic = [] :=
  agree.pending ▸ idle topic

/-- A goroutine's step reads nothing of the storage and changes what a cell holds by a command,
which depends only on what the cell held. -/
theorem step {event : ProcessorEvent} {s' : ProcessorState} (agree : AgreeOn cell s u)
    (stepped : s.step sorter loc event = some s') :
    ∃ u', u.step sorter loc event = some u' ∧ AgreeOn cell s' u' := by
  obtain ⟨storage, managers, klineHandler, pending⟩ := s
  obtain ⟨storage', managers', klineHandler', pending'⟩ := u
  obtain ⟨rfl, rfl, rfl, read⟩ := agree
  cases event with
  | fetch topic d =>
    cases queued : pending topic with
    | nil =>
      simp only [ProcessorState.step, queued, Option.some.injEq] at stepped ⊢
      exact ⟨_, rfl, stepped ▸ ⟨rfl, rfl, rfl, read⟩⟩
    | cons _ _ => simp only [ProcessorState.step, queued, reduceCtorEq] at stepped
  | send topic =>
    cases queued : pending topic with
    | nil => simp only [ProcessorState.step, queued, reduceCtorEq] at stepped
    | cons command rest =>
      simp only [ProcessorState.step, queued, Option.some.injEq] at stepped ⊢
      exact ⟨_, rfl, stepped ▸ ⟨rfl, rfl, rfl, RedisState.read_send_congr read command⟩⟩

/-- A lapse of time that the cell outlasts keeps the agreement. -/
theorem elapse {ms : Nat} (agree : AgreeOn cell s u)
    (lasts : RedisState.survives (s.storage.ttl cell) ms) : AgreeOn cell (s.elapse ms) u :=
  ⟨agree.managers, agree.klineHandler, agree.pending,
    (RedisState.read_advance lasts).trans agree.read⟩

theorem timedRun {events : List TimedEvent} {s' : ProcessorState} (agree : AgreeOn cell s u)
    (reached : s.timedRun sorter loc events = some s') (kept : s.keeps sorter loc cell events) :
    ∃ u', u.run sorter loc (untimed events) = some u' ∧ AgreeOn cell s' u' := by
  induction events generalizing s u with
  | nil =>
    cases reached
    exact ⟨u, rfl, agree⟩
  | cons event events ih =>
    cases event with
    | event event =>
      obtain ⟨next, stepped, rest⟩ := Option.bind_eq_some.mp reached
      change s.step sorter loc event = some next at stepped
      rw [ProcessorState.keeps, stepped] at kept
      obtain ⟨u', ustepped, agree'⟩ := agree.step stepped
      obtain ⟨u'', run, agree''⟩ := ih agree' rest kept
      exact ⟨u'', by rw [untimed_event, ProcessorState.run, ustepped]; exact run, agree''⟩
    | elapse ms =>
      simp only [ProcessorState.keeps, Bool.and_eq_true] at kept
      exact ih (agree.elapse kept.1) reached kept.2

end AgreeOn

variable {sorter loc}
variable {storage : RedisState} {events : List TimedEvent} {s : ProcessorState}

/-- A timed run reaches, in the goroutines' state and in every cell that no lapse of the run
has deleted, what the goroutines' events alone reach with no time passing. -/
theorem timedRun_untimed (reached : (newProcessor storage).timedRun sorter loc events = some s)
    {cell : Cell} (kept : (newProcessor storage).keeps sorter loc cell events) :
    ∃ u, (newProcessor storage).run sorter loc (untimed events) = some u ∧ AgreeOn cell s u :=
  (AgreeOn.refl cell _).timedRun reached kept

/-- From a trade list of at most 100 entries, after a timed run in which every goroutine has sent
its commands and no lapse of time has deleted `trade:{symbol}`, the list holds the newest 100
trades of the symbol, newest first, ahead of what it held before the run; the candles the kline
handler saves never touch it. -/
theorem timedRun_idle_trade_list (reached : (newProcessor storage).timedRun sorter loc events = some s)
    (idle : ∀ topic, s.pending topic = []) (symbol : String)
    (kept : (newProcessor storage).keeps sorter loc (.list (redisKeyTrade ++ symbol)) events)
    (short : (storage.lists (redisKeyTrade ++ symbol)).length ≤ 100) :
    s.storage.lists (redisKeyTrade ++ symbol) =
      ((((fetched .trade (untimed events)).filterMap decodeTrade).filter
          (·.symbol = symbol)).reverse.map Trade.toJson ++
        storage.lists (redisKeyTrade ++ symbol)).take 100 := by
  obtain ⟨u, run, agree⟩ := timedRun_untimed reached kept
  have list := agree.read
  simp only [RedisState.read, CellContents.list.injEq] at list
  rw [list, run_idle_trade_list run (agree.idle idle) symbol short]

theorem timedRun_idle_trade_list_sample :
    ∃ s, (newProcessor .empty).timedRun levelMergeSorter (.fixed 0) (spaced 1000 sampleEvents) =
        some s ∧ (∀ topic, s.pending topic = []) ∧
      (newProcessor .empty).keeps levelMergeSorter (.fixed 0) (.list (redisKeyTrade ++ "BTCUSDT"))
        (spaced 1000 sampleEvents) ∧
      (RedisState.empty.lists (redisKeyTrade ++ "BTCUSDT")).length ≤ 100 ∧
      s.storage.lists (redisKeyTrade ++ "BTCUSDT") =
        ((((fetched .trade (untimed (spaced 1000 sampleEvents))).filterMap decodeTrade).filter
            (·.symbol = "BTCUSDT")).reverse.map Trade.toJson ++
          RedisState.empty.lists (redisKeyTrade ++ "BTCUSDT")).take 100 :=
  ⟨_, rfl, fun topic => by cases topic <;> rfl, rfl, Nat.zero_le _,
    @timedRun_idle_trade_list levelMergeSorter (.fixed 0) .empty (spaced 1000 sampleEvents) _ rfl
      (fun topic => by cases topic <;> rfl) "BTCUSDT" rfl (Nat.zero_le _)⟩

end Timed

end Processor

end MarketSystem
