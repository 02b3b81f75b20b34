import MarketSystem.Models
import Mathlib.Data.List.Basic

/-!
# The upstream session of a venue adapter

`BinanceAdapter` and `OKXAdapter` run the same session code: `Connect` dials and starts a
reader (`readMessages`) and a heartbeat (`keepAlive`) on the new connection; a read error in
the reader, or a pong timeout in the heartbeat, runs `handleReconnect` in that goroutine;
`Close` clears the reconnect flag, closes `closeChan` and closes the current connection.  Only
the subscription encoding differs between the venues, so a subscription request appears here
as the list of strings the adapter saves.

Connections are numbered from 0 in the order they are dialed, and goroutines from 0 in the
order they start.  Each goroutine is a task with a program point, and each event is one step
of one goroutine or one call from the collector.  The outcome of a dial, a read, a write or a pong check is a
parameter of its event, so every behaviour of the network is some run.  Three fields record
history for stating properties and are read by no step: `lastConnectOk`, `readFailed` and
`closeCalled`.
-/

namespace MarketSystem

namespace Session

/-- `ReconnectConfig.MaxRetries`. -/
def maxRetries : Nat := 10

/-- `ReconnectConfig.InitialDelay`, in milliseconds. -/
def initialDelay : Nat := 1000

/-- `ReconnectConfig.MaxDelay`, in milliseconds. -/
def maxDelay : Nat := 60000

/-- Where a `handleReconnect` loop is. -/
inductive ReconnectPc where
  /-- About to sleep `delay` and call `Connect` for attempt `retries + 1`. -/
  | attempting (retries delay : Nat)
  /-- `Connect` succeeded; `resubscribe` is next. -/
  | resubscribing
  deriving DecidableEq, Repr

/-- Where a `readMessages` goroutine is. -/
inductive ReaderPc where
  /-- At the top of its loop, about to check `closeChan`. -/
  | selecting
  /-- Blocked in `ReadMessage` on `conn`, the value `b.conn` had when the call began. -/
  | reading (conn : Nat)
  /-- Inside `handleReconnect`, called after a read error. -/
  | reconnecting (pc : ReconnectPc)
  /-- Returning; its deferred `connected = false` is next. -/
  | exiting
  deriving DecidableEq, Repr

/-- Where a `keepAlive` goroutine is. -/
inductive KeepAlivePc where
  /-- Waiting in its select for `closeChan` or the next tick. -/
  | waiting
  /-- Inside `handleReconnect`, called after a pong timeout. -/
  | reconnecting (pc : ReconnectPc)
  deriving DecidableEq, Repr

/-- A live goroutine: a reader or a heartbeat.  A reader reads whatever `b.conn` is at the top
of each iteration, not the connection it was started for. -/
inductive Task where
  | reader (pc : ReaderPc)
  | keepAlive (pc : KeepAlivePc)
  deriving DecidableEq, Repr

/-- The adapter's fields, the connections that are open, and the live goroutines. -/
structure SessionState where
  conn : Option Nat
  connected : Bool
  reconnect : Bool
  closeChanClosed : Bool
  subscriptions : List String
  /-- Connections dialed and not yet closed. -/
  openConns : List Nat
  nextConn : Nat
  tasks : Nat → Option Task
  nextTask : Nat
  /-- Subscription messages written, with the connection each went out on. -/
  sent : List (Nat × List String)
  /-- Connections a reader has delivered a frame from, in order. -/
  delivered : List Nat
  lastConnectOk : Bool
  readFailed : List Nat
  closeCalled : Bool

/-- `NewBinanceAdapter` / `NewOKXAdapter`. -/
def newSession : SessionState where
  conn := none
  connected := false
  reconnect := true
  closeChanClosed := false
  subscriptions := []
  openConns := []
  nextConn := 0
  tasks := fun _ => none
  nextTask := 0
  sent := []
  delivered := []
  lastConnectOk := false
  readFailed := []
  closeCalled := false

namespace SessionState

/-- Replace (or end, with `none`) a task. -/
def setTask (s : SessionState) (task : Nat) (t : Option Task) : SessionState :=
  { s with tasks := Function.update s.tasks task t }

/-- `Connect` with a successful dial: the new connection becomes `b.conn`, `connected` is set,
and a reader and a heartbeat start on it. -/
def connectOk (s : SessionState) : SessionState :=
  { s with
    conn := some s.nextConn
    connected := true
    openConns := s.openConns ++ [s.nextConn]
    nextConn := s.nextConn + 1
    tasks := Function.update (Function.update s.tasks s.nextTask
      (some (.reader .selecting))) (s.nextTask + 1) (some (.keepAlive .waiting))
    nextTask := s.nextTask + 2
    lastConnectOk := true }

/-- `Connect` with a failed dial returns an error and changes nothing. -/
def connectFailed (s : SessionState) : SessionState :=
  { s with lastConnectOk := false }

/-- The live tasks, by id. -/
def liveTasks (s : SessionState) : List Task :=
  (List.range s.nextTask).filterMap s.tasks

/-- The number of live `readMessages` goroutines. -/
def readerCount (s : SessionState) : Nat :=
  s.liveTasks.countP fun | .reader _ => true | .keepAlive _ => false

/-- The number of live `keepAlive` goroutines. -/
def keepAliveCount (s : SessionState) : Nat :=
  s.liveTasks.countP fun | .reader _ => false | .keepAlive _ => true

end SessionState

/-- `Close` while `closeChan` is open: clear the reconnect flag, close `closeChan`, and close the
current connection, if any. -/
def closeAdapter (s : SessionState) : SessionState :=
  let s := { s with reconnect := false, closeChanClosed := true, closeCalled := true }
  match s.conn with
  | some conn => { s with connected := false, openConns := s.openConns.erase conn }
  | none => s

/-- One step of `handleReconnect` after its sleep: `Connect`; on success `resubscribe` is next,
otherwise the next attempt waits twice as long, capped at `MaxDelay`, until `MaxRetries`
attempts have failed and the loop gives up (`none`). -/
def attempt (s : SessionState) (retries delay : Nat) (ok : Bool) :
    SessionState × Option ReconnectPc :=
  if ok then (s.connectOk, some .resubscribing)
  else if retries + 1 < maxRetries then
    (s.connectFailed, some (.attempting (retries + 1) (min (delay * 2) maxDelay)))
  else (s.connectFailed, none)

/-- `resubscribe`: with saved subscriptions, write them all on the current connection. -/
def resubscribe (s : SessionState) (ok : Bool) : SessionState :=
  match s.subscriptions, s.conn with
  | _ :: _, some conn => if ok then { s with sent := s.sent ++ [(conn, s.subscriptions)] } else s
  | _, _ => s

/-- How a step can crash the program. -/
inductive SessionPanic where
  | closeOfClosedChannel
  /-- `ReadMessage` on a nil `b.conn`. -/
  | nilConnection
  deriving DecidableEq, Repr

/-- The result of one event. -/
inductive SessionOutcome where
  | next (s : SessionState)
  | panic (reason : SessionPanic)
  | disabled

/-- Continue with the next state, if there is one. -/
def SessionOutcome.bind : SessionOutcome → (SessionState → SessionOutcome) → SessionOutcome
  | .next s, k => k s
  | .panic reason, _ => .panic reason
  | .disabled, _ => .disabled

/-- One goroutine step or one call from the collector. -/
inductive SessionEvent where
  /-- `Connect` from the collector; `ok` is the dial's result. -/
  | connect (ok : Bool)
  /-- `Subscribe` from the collector, saving `streams`; `ok` is the write's result. -/
  | subscribe (streams : List String) (ok : Bool)
  /-- `Close` from the collector. -/
  | close
  /-- A reader checks `closeChan` at the top of its loop. -/
  | readerSelect (task : Nat)
  /-- A reader's `ReadMessage` returns a frame, which goes to the handler. -/
  | readFrame (task : Nat)
  /-- A reader's `ReadMessage` fails. -/
  | readError (task : Nat)
  /-- A returning reader runs its deferred `connected = false`. -/
  | readerExit (task : Nat)
  /-- A heartbeat's select takes `closeChan`. -/
  | keepAliveClose (task : Nat)
  /-- A heartbeat's select takes a tick; `pongLate` is `time.Since(lastPong) > 60s`. -/
  | keepAliveTick (task : Nat) (pongLate : Bool)
  /-- A `handleReconnect` loop sleeps and calls `Connect`; `ok` is the dial's result. -/
  | attempt (task : Nat) (ok : Bool)
  /-- A `handleReconnect` loop runs `resubscribe`; `ok` is the write's result. -/
  | resubscribe (task : Nat) (ok : Bool)

open SessionOutcome

/-- The task that called `handleReconnect` once the loop is over: a reader returns (its
deferred step is next), a heartbeat ends. -/
def finishReconnect : Task → Option Task
  | .reader _ => some (.reader .exiting)
  | .keepAlive _ => none

/-- The task at the given program point of `handleReconnect`. -/
def inReconnect : Task → ReconnectPc → Task
  | .reader _, pc => .reader (.reconnecting pc)
  | .keepAlive _, pc => .keepAlive (.reconnecting pc)

/-- The `handleReconnect` program point of a task, if it is in that loop. -/
def reconnectPc : Task → Option ReconnectPc
  | .reader (.reconnecting pc) | .keepAlive (.reconnecting pc) => some pc
  | _ => none

/-- One event. -/
def step (s : SessionState) : SessionEvent → SessionOutcome
  | .connect ok => next (if ok then s.connectOk else s.connectFailed)
  | .subscribe streams ok =>
      match s.connected, s.conn with
      | true, some conn =>
          if ok then
            next { s with
              subscriptions := s.subscriptions ++ streams
              sent := s.sent ++ [(conn, streams)] }
          else next s
      | _, _ => next s
  | .close => if s.closeChanClosed then panic .closeOfClosedChannel else next (closeAdapter s)
  | .readerSelect task =>
      match s.tasks task with
      | some (.reader .selecting) =>
          if s.closeChanClosed then next (s.setTask task (some (.reader .exiting)))
          else
            match s.conn with
            | some conn => next (s.setTask task (some (.reader (.reading conn))))
            | none => panic .nilConnection
      | _ => disabled
  | .readFrame task =>
      match s.tasks task with
      | some (.reader (.reading conn)) =>
          if conn ∈ s.openConns then
            let s' := s.setTask task (some (.reader .selecting))
            next { s' with delivered := s.delivered ++ [conn] }
          else disabled
      | _ => disabled
  | .readError task =>
      match s.tasks task with
      | some (.reader (.reading conn)) =>
          let s' := s.setTask task (some (.reader
            (if s.reconnect then .reconnecting (.attempting 0 initialDelay) else .exiting)))
          next { s' with readFailed := s.readFailed ++ [conn] }
      | _ => disabled
  | .readerExit task =>
      match s.tasks task with
      | some (.reader .exiting) => next { s.setTask task none with connected := false }
      | _ => disabled
  | .keepAliveClose task =>
      match s.tasks task with
      | some (.keepAlive .waiting) =>
          if s.closeChanClosed then next (s.setTask task none) else disabled
      | _ => disabled
  | .keepAliveTick task pongLate =>
      match s.tasks task with
      | some (.keepAlive .waiting) =>
          if s.connected ∧ pongLate then
            next (s.setTask task (some (.keepAlive (.reconnecting (.attempting 0 initialDelay)))))
          else next s
      | _ => disabled
  | .attempt task ok =>
      match s.tasks task with
      | some t =>
          match reconnectPc t with
          | some (.attempting retries delay) =>
              let (s', pc) := attempt s retries delay ok
              next (s'.setTask task (match pc with
                | some pc => some (inReconnect t pc)
                | none => finishReconnect t))
          | _ => disabled
      | none => disabled
  | .resubscribe task ok =>
      match s.tasks task with
      | some t =>
          match reconnectPc t with
          | some .resubscribing => next ((resubscribe s ok).setTask task (finishReconnect t))
          | _ => disabled
      | none => disabled

/-- Run a sequence of events, stopping at the first one that does not step normally. -/
def run (s : SessionState) : List SessionEvent → SessionOutcome
  | [] => next s
  | event :: events => (step s event).bind fun s => run s events

/-! ## The connection lifecycle -/

/-- The fields that `Connect`, `Close` and a reader's deferred step change; no other step
touches them. -/
structure Lifecycle where
  conn : Option Nat
  connected : Bool
  reconnect : Bool
  closeChanClosed : Bool
  openConns : List Nat
  nextConn : Nat
  closeCalled : Bool

/-- The lifecycle fields of a state. -/
def SessionState.lifecycle (s : SessionState) : Lifecycle :=
  ⟨s.conn, s.connected, s.reconnect, s.closeChanClosed, s.openConns, s.nextConn, s.closeCalled⟩

@[simp] theorem SessionState.lifecycle_setTask (s : SessionState) (task : Nat)
    (t : Option Task) : (s.setTask task t).lifecycle = s.lifecycle := rfl

@[simp] theorem SessionState.lifecycle_connectFailed (s : SessionState) :
    s.connectFailed.lifecycle = s.lifecycle := rfl

@[simp] theorem lifecycle_resubscribe (s : SessionState) (ok : Bool) :
    (resubscribe s ok).lifecycle = s.lifecycle := by
  unfold resubscribe
  split
  · split <;> rfl
  · rfl

theorem lifecycle_attempt (s : SessionState) (retries delay : Nat) (ok : Bool) :
    (attempt s retries delay ok).1.lifecycle =
      if ok then s.connectOk.lifecycle else s.lifecycle := by
  unfold attempt
  split
  · rfl
  · split <;> rfl

/-- What one step can do to the lifecycle: nothing, a successful `Connect`, `Close` while
`closeChan` is open, or a reader's deferred `connected = false`. -/
theorem lifecycle_step {s s' : SessionState} {e : SessionEvent} (h : step s e = next s') :
    s'.lifecycle = s.lifecycle ∨ s'.lifecycle = s.connectOk.lifecycle ∨
      (s.closeChanClosed = false ∧ s'.lifecycle = (closeAdapter s).lifecycle) ∨
      s'.lifecycle = { s.lifecycle with connected := false } := by
  cases e with
  | connect ok => cases ok <;> cases h <;> simp
  | subscribe streams ok =>
    simp only [step] at h
    split at h <;> (try split at h) <;> cases h <;> exact .inl rfl
  | close =>
    simp only [step] at h
    split at h
    · cases h
    · cases h; exact .inr (.inr (.inl ⟨Bool.eq_false_iff.mpr ‹_›, rfl⟩))
  | readerSelect task | readFrame task | readError task | keepAliveClose task
  | keepAliveTick task late =>
    simp only [step] at h
    repeat' split at h
    all_goals cases h <;> exact .inl rfl
  | readerExit task =>
    simp only [step] at h
    split at h
    · cases h; exact .inr (.inr (.inr rfl))
    · cases h
  | attempt task ok =>
    simp only [step] at h
    split at h
    · split at h
      · cases h
        simp only [SessionState.lifecycle_setTask, lifecycle_attempt]
        cases ok <;> simp
      · cases h
    · cases h
  | resubscribe task ok =>
    simp only [step] at h
    repeat' split at h
    all_goals cases h <;> simp

/-- What every reachable lifecycle satisfies.  `nextConn` counts the successful dials, so
`nextConn_le` says that every connection ever dialed, except at most one, is still open. -/
structure Lifecycle.Valid (l : Lifecycle) : Prop where
  conn_of_connected : l.connected = true → l.conn ≠ none
  closeChanClosed_eq : l.closeChanClosed = l.closeCalled
  reconnect_eq : l.reconnect = !l.closeCalled
  conn_lt : ∀ c, l.conn = some c → c < l.nextConn
  open_of_not_closed : l.closeCalled = false → l.openConns = List.range l.nextConn
  nextConn_le : l.nextConn ≤ l.openConns.length + 1

theorem newSession_valid : newSession.lifecycle.Valid where
  conn_of_connected := by simp [newSession, SessionState.lifecycle]
  closeChanClosed_eq := rfl
  reconnect_eq := rfl
  conn_lt := by simp [newSession, SessionState.lifecycle]
  open_of_not_closed _ := rfl
  nextConn_le := by simp [newSession, SessionState.lifecycle]

section Valid

variable {s : SessionState} (valid : s.lifecycle.Valid)
include valid

theorem Lifecycle.Valid.connectOk : s.connectOk.lifecycle.Valid where
  conn_of_connected _ := by simp [SessionState.connectOk, SessionState.lifecycle]
  closeChanClosed_eq := valid.closeChanClosed_eq
  reconnect_eq := valid.reconnect_eq
  conn_lt := by simp [SessionState.connectOk, SessionState.lifecycle]
  open_of_not_closed notClosed := by
    have opened := valid.open_of_not_closed notClosed
    simp only [SessionState.connectOk, SessionState.lifecycle] at opened ⊢
    simp [opened, List.range_succ]
  nextConn_le := by
    simpa [SessionState.connectOk, SessionState.lifecycle] using valid.nextConn_le

theorem Lifecycle.Valid.closeAdapter (notClosed : s.closeChanClosed = false) :
    (closeAdapter s).lifecycle.Valid := by
  have opened : s.openConns = List.range s.nextConn :=
    valid.open_of_not_closed (valid.closeChanClosed_eq ▸ notClosed)
  dsimp only [Session.closeAdapter]
  split
  · next c current =>
    have lt : c < s.nextConn := valid.conn_lt c current
    refine ⟨by simp [SessionState.lifecycle], rfl, rfl, ?_, by simp [SessionState.lifecycle], ?_⟩
    · simpa [SessionState.lifecycle, current] using lt
    · simp only [SessionState.lifecycle, opened]
      rw [List.length_erase_of_mem (List.mem_range.mpr lt), List.length_range]
      omega
  · refine ⟨fun h => valid.conn_of_connected h, rfl, rfl, valid.conn_lt,
      by simp [SessionState.lifecycle], valid.nextConn_le⟩

theorem Lifecycle.Valid.disconnect : { s.lifecycle with connected := false }.Valid :=
  { valid with conn_of_connected := by simp }

theorem Lifecycle.Valid.step {s' : SessionState} {e : SessionEvent} (h : step s e = next s') :
    s'.lifecycle.Valid := by
  rcases lifecycle_step h with same | opened | ⟨notClosed, closed⟩ | dropped
  · exact same ▸ valid
  · exact opened ▸ valid.connectOk
  · exact closed ▸ valid.closeAdapter notClosed
  · exact dropped ▸ valid.disconnect

end Valid

/-- Every state a run reaches has a valid lifecycle. -/
theorem Lifecycle.Valid.run {s s' : SessionState} (valid : s.lifecycle.Valid) :
    ∀ {events}, run s events = next s' → s'.lifecycle.Valid
  | [], h => by cases h; exact valid
  | e :: events, h => by
    cases stepped : Session.step s e with
    | next s => exact (valid.step stepped).run (by simpa [Session.run, stepped] using h)
    | panic reason | disabled => simp [Session.run, stepped, SessionOutcome.bind] at h

/-- Every state reached from a new adapter has a valid lifecycle. -/
theorem reachable_valid {events : List SessionEvent} {s : SessionState}
    (h : run newSession events = next s) : s.lifecycle.Valid :=
  newSession_valid.run h

/-- `closeChan` is closed exactly when `Close` has run, so a second `Close` from any reachable
state crashes the program. -/
theorem run_close_again_panics {events : List SessionEvent} {s : SessionState}
    (h : run newSession events = next s) (closed : s.closeCalled = true) :
    step s .close = panic .closeOfClosedChannel := by
  have closeChanClosed : s.closeChanClosed = true :=
    (reachable_valid h).closeChanClosed_eq.trans closed
  simp [step, closeChanClosed]

theorem connect_close_close_panics :
    ∃ s, run newSession [.connect true, .close] = next s ∧ s.closeCalled = true ∧
      step s .close = panic .closeOfClosedChannel :=
  ⟨_, rfl, rfl, @run_close_again_panics [.connect true, .close] _ rfl rfl⟩

/-- A read error on the first connection, a reconnect that succeeds, then the old reader's
deferred step: the last dial succeeded, the current connection never failed, `Close` was never
called, and the adapter reports itself disconnected. -/
theorem run_reconnect_then_deferred_disconnect :
    ∃ s, run newSession [.connect true, .readerSelect 0, .readError 0, .attempt 0 true,
        .resubscribe 0 true, .readerExit 0] = next s ∧
      s.lastConnectOk = true ∧ s.conn = some 1 ∧ s.readFailed = [0] ∧ s.closeCalled = false ∧
      s.connected = false :=
  ⟨_, rfl, rfl, rfl, rfl, rfl, rfl⟩

/-- A pong timeout reconnects without closing the first connection or stopping its reader: the
old reader delivers a frame from the old socket after the new one has delivered, then both
readers block on the new connection, and both connections stay open. -/
theorem run_pong_timeout_reconnect :
    ∃ s, run newSession [.connect true, .readerSelect 0, .keepAliveTick 1 true,
        .attempt 1 true, .resubscribe 1 true, .readerSelect 2, .readFrame 2, .readFrame 0,
        .readerSelect 0, .readerSelect 2] = next s ∧
      s.openConns = [0, 1] ∧ s.readerCount = 2 ∧ s.delivered = [1, 0] ∧
      s.tasks 0 = some (.reader (.reading 1)) ∧ s.tasks 2 = some (.reader (.reading 1)) :=
  ⟨_, rfl, rfl, rfl, rfl, rfl, rfl⟩

/-- A second `Close` crashes the program; and a `Close` during a reconnect loop lets the loop's
next dial succeed, so once every goroutine has ended a connection is still open. -/
theorem run_close_during_reconnect :
    run newSession [.connect true, .close, .close] = panic .closeOfClosedChannel ∧
      ∃ s, run newSession [.connect true, .readerSelect 0, .readError 0, .close, .attempt 0 true,
          .resubscribe 0 true, .readerExit 0, .readerSelect 2, .readerExit 2, .keepAliveClose 1,
          .keepAliveClose 3] = next s ∧
        s.closeCalled = true ∧ s.liveTasks = [] ∧ s.openConns = [1] :=
  ⟨rfl, _, rfl, rfl, rfl, rfl⟩

end Session

end MarketSystem
