import MarketSystem.Websocket.Subscription

/-!
# The fan-out hub and its client sessions

`Hub.Run` is one goroutine that takes register, unregister and broadcast requests from three
buffered channels and the stop signal.  Each client adds a reader (`readPump`), which turns
control messages into index updates and replies, and a writer (`writePump`), which drains the
client's buffered `send` channel.  This file models every goroutine step that touches shared
state as one event; a run is any sequence of enabled events, so every interleaving the Go
scheduler allows is a run.  A step can also end the program: a send on a closed channel and a
second `close` panic, and a send from `Run` to its own full `unregister` buffer blocks `Run`
for ever.  So does `Run`'s handling of an unregister request for a registered client: it logs
`ClientCount()`, whose `RLock` waits for the write lock `Run` itself holds.
-/

namespace MarketSystem

namespace Hub

/-- Capacity of a client's `send` channel (`NewClient`). -/
def sendBufferSize : Nat := 256

/-- Capacity of `h.register` (`NewHub`). -/
def registerBufferSize : Nat := 256

/-- Capacity of `h.unregister` (`NewHub`). -/
def unregisterBufferSize : Nat := 256

/-- Capacity of `h.broadcast` (`NewHub`). -/
def broadcastBufferSize : Nat := 1024

/-- `buildChannelName`: `channel:symbol`, or `channel` alone when the symbol is empty. -/
def buildChannelName (channel symbol : String) : String :=
  if symbol ≠ "" then channel ++ ":" ++ symbol else channel

/-- A value queued on a client's `send` channel. -/
inductive Frame where
  /-- The welcome map of `ServeHTTP`, stamped with `time.Now().Unix()`. -/
  | welcome (clientId : ClientId) (timestamp : Int)
  /-- `sendResponse(type, data)`; `data` is `{channel, symbol}` or `nil`. -/
  | response (type : String) (data : Option (String × String))
  /-- `sendError(message)`. -/
  | error (message : String)
  /-- The `{channel, data}` map of `broadcastToChannel`. -/
  | market (channel : String) (data : Json)

/-- `BroadcastMessage`. -/
structure BroadcastMessage where
  channel : String
  data : Json

/-- `json.Unmarshal` of a control frame into `map[string]interface{}`: an object decodes to
its map, `null` to a `nil` map, and anything else (or text that is not JSON, `none`) fails. -/
def decodeControl : Option Json → Option Json
  | some (.object fields) => some (.object fields)
  | some .null => some (.object [])
  | _ => none

/-- `handleSubscribe` and `handleUnsubscribe` differ only in the index operation and the reply
type: read `channel` (required) and `symbol` (optional), update the index, then reply. -/
def handleChannelRequest (update : SubscriptionManager → ClientId → String → SubscriptionManager)
    (replyType : String) (sm : SubscriptionManager) (client : ClientId) (msg : Json) :
    SubscriptionManager × Frame :=
  match Json.asString (msg.field "channel") with
  | none => (sm, .error "Missing 'channel' field")
  | some channel =>
      let symbol := (Json.asString (msg.field "symbol")).getD ""
      (update sm client (buildChannelName channel symbol),
        .response replyType (some (channel, symbol)))

/-- `handleSubscribe`. -/
def handleSubscribe : SubscriptionManager → ClientId → Json → SubscriptionManager × Frame :=
  handleChannelRequest SubscriptionManager.subscribe "subscribed"

/-- `handleUnsubscribe`. -/
def handleUnsubscribe : SubscriptionManager → ClientId → Json → SubscriptionManager × Frame :=
  handleChannelRequest SubscriptionManager.unsubscribe "unsubscribed"

/-- `handleMessage`: the index after the message and the single frame it replies with. -/
def handleMessage (sm : SubscriptionManager) (client : ClientId) (message : Option Json) :
    SubscriptionManager × Frame :=
  match decodeControl message with
  | none => (sm, .error "Invalid JSON format")
  | some msg =>
      match Json.asString (msg.field "action") with
      | none => (sm, .error "Missing 'action' field")
      | some "subscribe" => handleSubscribe sm client msg
      | some "unsubscribe" => handleUnsubscribe sm client msg
      | some "ping" => (sm, .response "pong" none)
      | some action => (sm, .error ("Unknown action: " ++ action))

/-- Where a client's `readPump` is. -/
inductive ReaderState where
  /-- `ServeHTTP` has queued the register request and not yet started the pumps. -/
  | starting
  /-- Blocked in `ReadMessage`. -/
  | reading
  /-- `handleMessage` has updated the index and is about to send this reply. -/
  | replying (frame : Frame)
  /-- `readPump` has returned after queueing its unregister request. -/
  | exited

/-- A client session: its buffered `send` channel, whether that channel is closed, and its
reader. -/
structure Session where
  send : List Frame
  sendClosed : Bool
  reader : ReaderState

/-- The shared state of the hub and of every session. -/
structure HubState where
  sessions : ClientId → Option Session
  clients : List ClientId
  register : List ClientId
  unregister : List ClientId
  broadcast : List BroadcastMessage
  subscriptionManager : SubscriptionManager
  stopClosed : Bool
  running : Bool

/-- `NewHub`, with `Run` started. -/
def newHub : HubState where
  sessions := fun _ => none
  clients := []
  register := []
  unregister := []
  broadcast := []
  subscriptionManager := newSubscriptionManager
  stopClosed := false
  running := true

/-- How a goroutine crashes the program. -/
inductive Panic where
  | sendOnClosed (client : ClientId)
  | closeOfClosed (client : ClientId)
  | closeOfClosedStopChan
  deriving DecidableEq, Repr

/-- The result of one event. -/
inductive HubOutcome where
  | next (s : HubState)
  | panic (reason : Panic)
  /-- `Run` blocked for ever: on a send to its own `unregister` channel, which only it drains,
  or on `ClientCount`'s read lock, which waits for the write lock `Run` holds. -/
  | deadlock
  /-- The event cannot happen in this state. -/
  | disabled

namespace HubOutcome

/-- Continue with the next event only after a normal step. -/
def bind : HubOutcome → (HubState → HubOutcome) → HubOutcome
  | next s, k => k s
  | panic reason, _ => panic reason
  | deadlock, _ => deadlock
  | disabled, _ => disabled

@[simp]
theorem next_bind (s : HubState) (k : HubState → HubOutcome) : (next s).bind k = k s :=
  rfl

@[simp]
theorem panic_bind (reason : Panic) (k : HubState → HubOutcome) :
    (panic reason).bind k = panic reason :=
  rfl

@[simp]
theorem deadlock_bind (k : HubState → HubOutcome) : deadlock.bind k = deadlock :=
  rfl

end HubOutcome

/-- One goroutine step that touches shared state. -/
inductive HubEvent where
  /-- `ServeHTTP`: `NewClient` and `Register` (a blocking send on `h.register`). -/
  | serve (client : ClientId)
  /-- `ServeHTTP`: the welcome frame, then `Start`. -/
  | welcome (client : ClientId) (now : Int)
  /-- `readPump` receives a frame and `handleMessage` updates the index. -/
  | read (client : ClientId) (message : Option Json)
  /-- `handleMessage` sends its reply (`sendResponse` or `sendError`). -/
  | reply (client : ClientId)
  /-- `ReadMessage` fails; the deferred `Unregister` blocks on `h.unregister`. -/
  | readError (client : ClientId)
  /-- `writePump` receives one value from `send`. -/
  | write (client : ClientId)
  /-- `Hub.Broadcast` from the Redis bridge (a blocking send on `h.broadcast`). -/
  | publish (message : BroadcastMessage)
  /-- `Hub.Stop`: `close(h.stopChan)`. -/
  | stop
  /-- `Run`'s select takes a register request. -/
  | runRegister
  /-- `Run`'s select takes an unregister request. -/
  | runUnregister
  /-- `Run`'s select takes a broadcast message. -/
  | runBroadcast
  /-- `Run`'s select sees `stopChan` closed. -/
  | runStop

namespace HubState

/-- Replace the session of `client`. -/
def setSession (s : HubState) (client : ClientId) (session : Session) : HubState :=
  { s with sessions := Function.update s.sessions client (some session) }

@[simp]
theorem setSession_sessions_self (s : HubState) (client : ClientId) (session : Session) :
    (s.setSession client session).sessions client = some session := by
  simp [setSession]

@[simp]
theorem setSession_sessions_of_ne (s : HubState) {client other : ClientId} (session : Session)
    (ne : other ≠ client) : (s.setSession client session).sessions other = s.sessions other := by
  simp [setSession, ne]

@[simp]
theorem setSession_subscriptionManager (s : HubState) (client : ClientId) (session : Session) :
    (s.setSession client session).subscriptionManager = s.subscriptionManager :=
  rfl

@[simp]
theorem setSession_unregister (s : HubState) (client : ClientId) (session : Session) :
    (s.setSession client session).unregister = s.unregister :=
  rfl

@[simp]
theorem setSession_broadcast (s : HubState) (client : ClientId) (session : Session) :
    (s.setSession client session).broadcast = s.broadcast :=
  rfl

@[simp]
theorem setSession_running (s : HubState) (client : ClientId) (session : Session) :
    (s.setSession client session).running = s.running :=
  rfl

@[simp]
theorem setSession_setSession (s : HubState) (client : ClientId) (first second : Session) :
    (s.setSession client first).setSession client second = s.setSession client second := by
  simp [setSession]

theorem setSession_of_sessions_eq {s : HubState} {client : ClientId} {session : Session}
    (found : s.sessions client = some session) : s.setSession client session = s := by
  obtain ⟨sessions, clients, register, unregister, broadcast, sm, stopClosed, running⟩ := s
  simp only [setSession, HubState.mk.injEq, and_true]
  exact Function.update_eq_self_iff.mpr found.symm

end HubState

open HubOutcome

/-- A non-blocking send from a client's own goroutines
(`select { case c.send <- frame: default: }`): a closed channel panics, a full one drops the
frame, and otherwise the frame is queued; `reader` is the reader's state afterwards. -/
def offer (s : HubState) (client : ClientId) (session : Session) (frame : Frame)
    (reader : ReaderState) : HubOutcome :=
  if session.sendClosed then panic (.sendOnClosed client)
  else if session.send.length < sendBufferSize then
    next (s.setSession client { session with send := session.send ++ [frame], reader := reader })
  else next (s.setSession client { session with reader := reader })

/-- One iteration of `broadcastToChannel`'s loop: queue the message on the subscriber's
channel, or, when that channel is full, send the subscriber on `h.unregister`. -/
def deliver (message : BroadcastMessage) (s : HubState) (client : ClientId) : HubOutcome :=
  match s.sessions client with
  | none => next s
  | some session =>
      if session.sendClosed then panic (.sendOnClosed client)
      else if session.send.length < sendBufferSize then
        next (s.setSession client
          { session with send := session.send ++ [.market message.channel message.data] })
      else if s.unregister.length < unregisterBufferSize then
        next { s with unregister := s.unregister ++ [client] }
      else deadlock

/-- `broadcastToChannel`: one `deliver` per subscriber, in the order of the copied set. -/
def broadcastToChannel (s : HubState) (message : BroadcastMessage) : HubOutcome :=
  (s.subscriptionManager.getSubscribers message.channel).foldl
    (fun outcome client => outcome.bind (deliver message · client)) (next s)

/-- `close(client.send)` followed by `UnsubscribeAll(client)`. -/
def closeClient (s : HubState) (client : ClientId) : HubOutcome :=
  match s.sessions client with
  | none => next { s with subscriptionManager := s.subscriptionManager.unsubscribeAll client }
  | some session =>
      if session.sendClosed then panic (.closeOfClosed client)
      else
        next { s.setSession client { session with sendClosed := true } with
          subscriptionManager := s.subscriptionManager.unsubscribeAll client }

/-- `closeAllClients`, after which `Run` returns. -/
def closeAllClients (s : HubState) : HubOutcome :=
  (s.clients.foldl (fun outcome client => outcome.bind (closeClient · client)) (next s)).bind
    fun s => next { s with clients := [], running := false }

/-- One event. -/
def step (s : HubState) : HubEvent → HubOutcome
  | .serve client =>
      match s.sessions client with
      | none =>
          if s.register.length < registerBufferSize then
            next { s.setSession client ⟨[], false, .starting⟩ with
              register := s.register ++ [client] }
          else disabled
      | some _ => disabled
  | .welcome client now =>
      match s.sessions client with
      | some session =>
          match session.reader with
          | .starting => offer s client session (.welcome client now) .reading
          | _ => disabled
      | none => disabled
  | .read client message =>
      match s.sessions client with
      | some session =>
          match session.reader with
          | .reading =>
              let (sm, frame) := handleMessage s.subscriptionManager client message
              next { s.setSession client { session with reader := .replying frame } with
                subscriptionManager := sm }
          | _ => disabled
      | none => disabled
  | .reply client =>
      match s.sessions client with
      | some session =>
          match session.reader with
          | .replying frame => offer s client session frame .reading
          | _ => disabled
      | none => disabled
  | .readError client =>
      match s.sessions client with
      | some session =>
          match session.reader with
          | .reading =>
              if s.unregister.length < unregisterBufferSize then
                next { s.setSession client { session with reader := .exited } with
                  unregister := s.unregister ++ [client] }
              else disabled
          | _ => disabled
      | none => disabled
  | .write client =>
      match s.sessions client with
      | some session =>
          match session.send with
          | _ :: rest => next (s.setSession client { session with send := rest })
          | [] => disabled
      | none => disabled
  | .publish message =>
      if s.broadcast.length < broadcastBufferSize then
        next { s with broadcast := s.broadcast ++ [message] }
      else disabled
  | .stop => if s.stopClosed then panic .closeOfClosedStopChan else next { s with stopClosed := true }
  | .runRegister =>
      match s.running, s.register with
      | true, client :: rest => next { s with clients := s.clients.insert client, register := rest }
      | _, _ => disabled
  | .runUnregister =>
      match s.running, s.unregister with
      | true, client :: rest =>
          if client ∈ s.clients then
            -- `close(client.send)` and `UnsubscribeAll`, then `ClientCount()` under `h.mu.Lock()`
            (closeClient { s with clients := s.clients.erase client, unregister := rest }
              client).bind fun _ => deadlock
          else next { s with unregister := rest }
      | _, _ => disabled
  | .runBroadcast =>
      match s.running, s.broadcast with
      | true, message :: rest => broadcastToChannel { s with broadcast := rest } message
      | _, _ => disabled
  | .runStop => if s.running ∧ s.stopClosed then closeAllClients s else disabled

/-- Run a sequence of events, stopping at the first one that does not step normally. -/
def run (s : HubState) : List HubEvent → HubOutcome
  | [] => next s
  | event :: events => (step s event).bind fun s => run s events

theorem run_append (s : HubState) (first second : List HubEvent) :
    run s (first ++ second) = (run s first).bind fun s => run s second := by
  induction first generalizing s with
  | nil => rfl
  | cons event events ih =>
      simp only [List.cons_append, run]
      cases step s event <;> simp [HubOutcome.bind, ih]

/-! ## Sends on a closed channel

`Run` closes a session's `send` channel when it takes the session's unregister request or when
it stops, but the session's reader keeps running until its own `ReadMessage` fails, and every
control frame it handles is answered by a send on that channel. -/

/-- The control frame `{"action":"ping"}`. -/
def pingMessage : Json :=
  .object [("action", .string "ping")]

/-- The control frame `{"action":"subscribe","channel":channel,"symbol":symbol}`. -/
def subscribeMessage (channel symbol : String) : Json :=
  .object [("action", .string "subscribe"), ("channel", .string channel),
    ("symbol", .string symbol)]

/-- A run from `NewHub` in which `Stop` closes a registered client's channel while its reader
is alive, and the reader then answers a ping. -/
theorem run_stop_then_ping :
    run newHub [.serve 0, .welcome 0 0, .runRegister, .stop, .runStop,
      .read 0 (some pingMessage), .reply 0] = panic (.sendOnClosed 0) :=
  rfl

/-! ## `Run` waits on its own lock

`Run` handles an unregister request under `h.mu.Lock()`, and for a registered client it logs
`ClientCount()`, whose `h.mu.RLock()` waits until the write lock is released.  `sync.RWMutex` is
not reentrant and only `Run` would release it, so the first client to disconnect after it was
registered stops the hub: no register, unregister, broadcast or stop request is taken again. -/

theorem run_unregister_before_register :
    ∃ s, run newHub [.serve 0, .welcome 0 0, .read 0 (some (subscribeMessage "ticker" "BTCUSDT")),
        .reply 0, .readError 0] = next s ∧ s.register = [0] ∧ s.unregister = [0] ∧
      ∃ s', run s [.runUnregister, .runRegister] = next s' ∧ s'.clients = [0] ∧
        s'.subscriptionManager.getClientSubscriptions 0 = ["ticker:BTCUSDT"] :=
  ⟨_, rfl, rfl, rfl, _, rfl, rfl, rfl⟩

/-! ## No limit on subscriptions

`handleSubscribe` subscribes whatever channel it is asked for; nothing compares the client's
subscription count with `MaxSubscriptionsPerConn`. -/

/-- Every subscribe request is accepted, whatever the client is already subscribed to. -/
theorem handleMessage_subscribe (sm : SubscriptionManager) (client : ClientId)
    (channel symbol : String) :
    handleMessage sm client (some (subscribeMessage channel symbol)) =
      (sm.subscribe client (buildChannelName channel symbol),
        .response "subscribed" (some (channel, symbol))) :=
  rfl

/-- A subscribe to a channel the client is not on adds one subscription, however many it has. -/
theorem getClientSubscriptions_subscribe_length {sm : SubscriptionManager} {client : ClientId}
    {channel : String} (fresh : channel ∉ sm.getClientSubscriptions client) :
    ((sm.subscribe client channel).getClientSubscriptions client).length =
      (sm.getClientSubscriptions client).length + 1 := by
  simp only [SubscriptionManager.getClientSubscriptions, SubscriptionManager.subscribe,
    SetMap.members_insertMember, if_pos rfl]
  exact List.length_insert_of_not_mem fresh

/-- Subscribing a client to channels it is not on, one after another, adds each of them. -/
theorem foldl_subscribe_length {client : ClientId} (channels : List String) (nodup : channels.Nodup) :
    ∀ sm : SubscriptionManager, (∀ channel ∈ channels, channel ∉ sm.getClientSubscriptions client) →
      ((channels.foldl (fun sm channel => sm.subscribe client channel) sm).getClientSubscriptions
          client).length = (sm.getClientSubscriptions client).length + channels.length := by
  induction channels with
  | nil => intro sm _; rfl
  | cons channel channels ih =>
      intro sm fresh
      obtain ⟨absent, nodup⟩ := List.nodup_cons.mp nodup
      have later : ∀ other ∈ channels,
          other ∉ (sm.subscribe client channel).getClientSubscriptions client := by
        intro other mem
        simp only [SubscriptionManager.getClientSubscriptions, SubscriptionManager.subscribe,
          SetMap.members_insertMember, if_true, List.mem_insert_iff, not_or]
        exact ⟨fun same => absent (same ▸ mem), fresh other (List.mem_cons_of_mem _ mem)⟩
      rw [List.foldl_cons, ih nodup _ later,
        getClientSubscriptions_subscribe_length (fresh channel (List.mem_cons_self _ _)),
        List.length_cons]
      omega

/-- A reader handling one subscribe request per pair `(channel, symbol)`, each followed by its
reply. -/
def subscribeRounds (client : ClientId) : List (String × String) → List HubEvent
  | [] => []
  | (channel, symbol) :: rest =>
      .read client (some (subscribeMessage channel symbol)) :: .reply client ::
        subscribeRounds client rest

/-- A reader whose channel is open and has room answers a subscribe request: the index gains
the channel and the channel gains the `subscribed` reply. -/
theorem run_subscribeRound {s : HubState} {client : ClientId} {send : List Frame}
    (channel symbol : String) (events : List HubEvent)
    (found : s.sessions client = some ⟨send, false, .reading⟩) (room : send.length < sendBufferSize) :
    run s (.read client (some (subscribeMessage channel symbol)) :: .reply client :: events) =
      run { s.setSession client
          ⟨send ++ [.response "subscribed" (some (channel, symbol))], false, .reading⟩ with
        subscriptionManager :=
          s.subscriptionManager.subscribe client (buildChannelName channel symbol) } events := by
  simp [run, step, found, offer, room, handleMessage_subscribe, HubState.setSession]

/-- Subscribe rounds on an open channel with room for every reply: every request is accepted,
whatever the client was subscribed to, and answered `subscribed`. -/
theorem run_subscribeRounds {client : ClientId} (pairs : List (String × String)) :
    ∀ {s : HubState} {send : List Frame}, s.sessions client = some ⟨send, false, .reading⟩ →
      send.length + pairs.length ≤ sendBufferSize →
      run s (subscribeRounds client pairs) =
        next { s.setSession client
            ⟨send ++ pairs.map (fun pair => .response "subscribed" (some pair)), false, .reading⟩ with
          subscriptionManager := pairs.foldl
            (fun sm pair => sm.subscribe client (buildChannelName pair.1 pair.2))
            s.subscriptionManager } := by
  induction pairs with
  | nil =>
      intro s send found _
      simp only [subscribeRounds, run, List.map_nil, List.append_nil, List.foldl_nil,
        HubState.setSession_of_sessions_eq found]
  | cons pair pairs ih =>
      intro s send found room
      obtain ⟨channel, symbol⟩ := pair
      rw [subscribeRounds, run_subscribeRound channel symbol _ found (by simp at room; omega),
        @ih _ (send ++ [.response "subscribed" (some (channel, symbol))])]
      · simp [HubState.setSession]
      · simp [HubState.setSession]
      · simp at room ⊢; omega

/-- The 21 distinct channels `kline:0`, ..., `kline:20`. -/
def klineChannels : List (String × String) :=
  (List.range 21).map fun i => ("kline", toString i)

theorem run_subscribe_beyond_limit :
    ∃ s, run newHub ([.serve 0, .welcome 0 0, .runRegister] ++ subscribeRounds 0 klineChannels) =
        next s ∧
      maxSubscriptionsPerConn < (s.subscriptionManager.getClientSubscriptions 0).length ∧
      s.sessions 0 = some ⟨.welcome 0 0 :: klineChannels.map
        (fun (channel, symbol) => .response "subscribed" (some (channel, symbol))), false, .reading⟩ := by
  obtain ⟨s, registered, found, fresh⟩ : ∃ s, run newHub [.serve 0, .welcome 0 0, .runRegister] =
      next s ∧ s.sessions 0 = some ⟨[.welcome 0 0], false, .reading⟩ ∧
        s.subscriptionManager = newSubscriptionManager :=
    ⟨_, rfl, rfl, rfl⟩
  rw [run_append, registered, next_bind, run_subscribeRounds klineChannels found (by decide)]
  refine ⟨_, rfl, ?_, by simp⟩
  have count := @foldl_subscribe_length 0
    (klineChannels.map fun pair => buildChannelName pair.1 pair.2) (by decide)
    newSubscriptionManager (fun _ _ => List.not_mem_nil _)
  simp only [List.foldl_map] at count
  simp only [fresh, count]
  decide

/-! ## A deadlock of `Run`

`broadcastToChannel` runs inside `Run`, and when a subscriber's channel is full it sends the
subscriber on `h.unregister`, a channel only `Run` receives from.  Once that buffer is full the
send blocks `Run` for ever. -/

section Deliver

variable {s : HubState} {client : ClientId} {message : BroadcastMessage} {session : Session}

theorem deliver_of_room (found : s.sessions client = some session)
    (opened : session.sendClosed = false) (room : session.send.length < sendBufferSize) :
    deliver message s client = next (s.setSession client
      { session with send := session.send ++ [.market message.channel message.data] }) := by
  simp [deliver, found, opened, room]

theorem deliver_of_full (found : s.sessions client = some session)
    (opened : session.sendClosed = false) (full : sendBufferSize ≤ session.send.length)
    (room : s.unregister.length < unregisterBufferSize) :
    deliver message s client = next { s with unregister := s.unregister ++ [client] } := by
  simp [deliver, found, opened, Nat.not_lt.mpr full, room]

/-- A subscriber whose channel is full, met when `h.unregister` is full, blocks `Run`. -/
theorem deliver_deadlock (found : s.sessions client = some session)
    (opened : session.sendClosed = false) (full : sendBufferSize ≤ session.send.length)
    (blocked : unregisterBufferSize ≤ s.unregister.length) :
    deliver message s client = deadlock := by
  simp [deliver, found, opened, Nat.not_lt.mpr full, Nat.not_lt.mpr blocked]

end Deliver

/-- `n` rounds of one `Hub.Broadcast` followed by the `Run` iteration that handles it. -/
def broadcastRounds (message : BroadcastMessage) : Nat → List HubEvent
  | 0 => []
  | n + 1 => .publish message :: .runBroadcast :: broadcastRounds message n

theorem broadcastRounds_add (message : BroadcastMessage) (first second : Nat) :
    broadcastRounds message (first + second) =
      broadcastRounds message first ++ broadcastRounds message second := by
  induction first with
  | zero => simp [broadcastRounds]
  | succ first ih => simp [Nat.succ_add, broadcastRounds, ih]

section Rounds

variable {s : HubState} {client : ClientId} {message : BroadcastMessage}
  (running : s.running = true) (empty : s.broadcast = [])
  (subscribers : s.subscriptionManager.getSubscribers message.channel = [client])

include running empty subscribers

/-- With a single subscriber, one round is one `deliver` to it. -/
theorem run_broadcastRound (events : List HubEvent) :
    run s (.publish message :: .runBroadcast :: events) =
      (deliver message s client).bind fun s => run s events := by
  obtain ⟨sessions, clients, register, unregister, broadcast, sm, stopClosed, running'⟩ := s
  simp only at running empty subscribers
  subst running empty
  simp [run, step, broadcastBufferSize, broadcastToChannel, subscribers]

/-- Rounds with room on the subscriber's channel each queue the message on it. -/
theorem run_broadcastRounds_of_room {send : List Frame} {reader : ReaderState} (n : Nat)
    (room : send.length + n ≤ sendBufferSize) :
    run (s.setSession client ⟨send, false, reader⟩) (broadcastRounds message n) =
      next (s.setSession client
        ⟨send ++ List.replicate n (.market message.channel message.data), false, reader⟩) := by
  induction n generalizing send with
  | zero => simp [broadcastRounds, run]
  | succ n ih =>
      rw [broadcastRounds,
        run_broadcastRound (s := s.setSession client _) running empty subscribers,
        deliver_of_room (HubState.setSession_sessions_self ..) rfl (by simp at room ⊢; omega),
        next_bind, HubState.setSession_setSession, ih (by simp at room ⊢; omega)]
      simp [List.replicate_succ]

/-- Rounds that find the subscriber's channel full each queue an unregister request, until
one of them finds `h.unregister` full and blocks `Run`. -/
theorem run_broadcastRounds_deadlock {session : Session} (n : Nat)
    (found : s.sessions client = some session) (opened : session.sendClosed = false)
    (full : sendBufferSize ≤ session.send.length)
    (bounded : s.unregister.length ≤ unregisterBufferSize)
    (overflow : unregisterBufferSize < s.unregister.length + n) :
    run s (broadcastRounds message n) = deadlock := by
  induction n generalizing s with
  | zero => omega
  | succ n ih =>
      rw [broadcastRounds, run_broadcastRound running empty subscribers]
      by_cases room : s.unregister.length < unregisterBufferSize
      · rw [deliver_of_full found opened full room, next_bind]
        exact ih (s := { s with unregister := s.unregister ++ [client] }) running empty
          subscribers found (by simp; omega) (by simp; omega)
      · rw [deliver_deadlock found opened full (Nat.not_lt.mp room), deadlock_bind]

/-- While `h.unregister` has room, rounds that find the subscriber's channel full each queue
one more unregister request for it, and the subscriber stays in the index. -/
theorem run_broadcastRounds_of_full {session : Session} (n : Nat)
    (found : s.sessions client = some session) (opened : session.sendClosed = false)
    (full : sendBufferSize ≤ session.send.length)
    (room : s.unregister.length + n ≤ unregisterBufferSize) :
    run s (broadcastRounds message n) =
      next { s with unregister := s.unregister ++ List.replicate n client } := by
  induction n generalizing s with
  | zero => simp [broadcastRounds, run]
  | succ n ih =>
      rw [broadcastRounds, run_broadcastRound running empty subscribers,
        deliver_of_full found opened full (by omega), next_bind,
        ih (s := { s with unregister := s.unregister ++ [client] }) running empty subscribers
          found (by simp; omega)]
      simp [List.replicate_succ]

end Rounds

/-- The broadcast of a ticker update on `ticker:BTCUSDT`. -/
def tickerBroadcast : BroadcastMessage :=
  ⟨"ticker:BTCUSDT", .null⟩

/-- A client subscribes to `ticker:BTCUSDT` and stops draining its channel; after 254
broadcasts its channel holds 256 frames and is full. -/
theorem run_subscribed_filled :
    ∃ s, run newHub ([.serve 0, .welcome 0 0, .runRegister,
        .read 0 (some (subscribeMessage "ticker" "BTCUSDT")), .reply 0] ++
          broadcastRounds tickerBroadcast 254) = next s ∧
      s.running = true ∧ s.broadcast = [] ∧ s.unregister = [] ∧
      s.subscriptionManager.getSubscribers tickerBroadcast.channel = [0] ∧
      ∃ session, s.sessions 0 = some session ∧ session.sendClosed = false ∧
        sendBufferSize ≤ session.send.length := by
  obtain ⟨s, prefixRun, running, empty, drained, subscribers, found⟩ :
      ∃ s, run newHub [.serve 0, .welcome 0 0, .runRegister,
          .read 0 (some (subscribeMessage "ticker" "BTCUSDT")), .reply 0] = next s ∧
        s.running = true ∧ s.broadcast = [] ∧ s.unregister = [] ∧
        s.subscriptionManager.getSubscribers tickerBroadcast.channel = [0] ∧
        s.sessions 0 = some ⟨[.welcome 0 0, .response "subscribed" (some ("ticker", "BTCUSDT"))],
          false, .reading⟩ :=
    ⟨_, rfl, rfl, rfl, rfl, rfl, rfl⟩
  have filled := @run_broadcastRounds_of_room s 0 tickerBroadcast running empty subscribers
    [.welcome 0 0, .response "subscribed" (some ("ticker", "BTCUSDT"))] .reading 254
    (by simp [sendBufferSize])
  rw [HubState.setSession_of_sessions_eq found] at filled
  rw [run_append, prefixRun, next_bind, filled]
  exact ⟨_, rfl, running, empty, drained, subscribers, _, HubState.setSession_sessions_self ..,
    rfl, by rw [List.length_append, List.length_replicate]; decide⟩

/-- `Run` deadlocks: a client subscribes to `ticker:BTCUSDT` and stops draining its channel;
254 broadcasts fill the channel after the welcome and the subscribed frames, the next 256
each queue an unregister request for the client, and the one after blocks `Run` on the full
`unregister` buffer. -/
theorem run_broadcast_deadlock :
    run newHub ([.serve 0, .welcome 0 0, .runRegister,
      .read 0 (some (subscribeMessage "ticker" "BTCUSDT")), .reply 0] ++
        broadcastRounds tickerBroadcast 511) = deadlock := by
  obtain ⟨s, filledRun, running, empty, drained, subscribers, session, found, opened, full⟩ :=
    run_subscribed_filled
  rw [show 511 = 254 + 257 from rfl, broadcastRounds_add, ← List.append_assoc, run_append,
    filledRun, next_bind,
    run_broadcastRounds_deadlock running empty subscribers 257 found opened full
      (by simp [drained]) (by simp [drained, unregisterBufferSize])]

/-- When a broadcast finds a subscriber's channel full, `Run` can take the next broadcast
before the unregister request: the subscriber is still in the index, and the next broadcast
sends it on `h.unregister` a second time. -/
theorem run_full_subscriber_unregistered_twice :
    ∃ s, run newHub ([.serve 0, .welcome 0 0, .runRegister,
        .read 0 (some (subscribeMessage "ticker" "BTCUSDT")), .reply 0] ++
          broadcastRounds tickerBroadcast 256) = next s ∧
      s.unregister = [0, 0] ∧ s.subscriptionManager.getSubscribers tickerBroadcast.channel = [0] := by
  obtain ⟨s, filledRun, running, empty, drained, subscribers, session, found, opened, full⟩ :=
    run_subscribed_filled
  rw [show 256 = 254 + 2 from rfl, broadcastRounds_add, ← List.append_assoc, run_append,
    filledRun, next_bind,
    run_broadcastRounds_of_full running empty subscribers 2 found opened full
      (by simp [drained, unregisterBufferSize])]
  exact ⟨_, rfl, by simp [drained], subscribers⟩

/-! ## One broadcast to a crowd

`broadcastToChannel` sends on `h.unregister` from inside `Run`, so no select of `Run` comes
between the deliveries of one broadcast.  When more subscribers of its channel have full
channels than `h.unregister` has room for, that one broadcast blocks `Run`, whatever the other
goroutines do. -/

theorem getSubscribers_subscribe (sm : SubscriptionManager) (client : ClientId)
    (channel channel' : String) :
    (sm.subscribe client channel).getSubscribers channel' =
      if channel' = channel then (sm.getSubscribers channel).insert client
      else sm.getSubscribers channel' :=
  SetMap.members_insertMember _ _ _ _

/-- Subscribing a client to one channel again and again adds it once. -/
theorem getSubscribers_foldl_subscribe_replicate (client : ClientId) (channel symbol : String)
    (k : Nat) (sm : SubscriptionManager) :
    ((List.replicate (k + 1) (channel, symbol)).foldl
        (fun sm pair => sm.subscribe client (buildChannelName pair.1 pair.2)) sm).getSubscribers
        (buildChannelName channel symbol) =
      (sm.getSubscribers (buildChannelName channel symbol)).insert client := by
  induction k generalizing sm with
  | zero => simp [getSubscribers_subscribe]
  | succ k ih =>
    rw [List.replicate_succ, List.foldl_cons, ih, getSubscribers_subscribe, if_pos rfl,
      List.insert_of_mem (List.mem_insert_self _ _)]

/-- Client `client` connects, is registered and sends 255 requests to subscribe to
`ticker:BTCUSDT` while its writer is stalled: the welcome frame and the replies fill its
channel. -/
def joinCrowd (client : ClientId) : List HubEvent :=
  [.serve client, .welcome client 0, .runRegister] ++
    subscribeRounds client (List.replicate 255 ("ticker", "BTCUSDT"))

/-- Clients `0`, ..., `n - 1` join one after another. -/
def crowd : Nat → List HubEvent
  | 0 => []
  | n + 1 => crowd n ++ joinCrowd n

/-- A crowd member's session once it has joined. -/
def crowdSession (client : ClientId) : Session :=
  ⟨.welcome client 0 :: List.replicate 255 (.response "subscribed" (some ("ticker", "BTCUSDT"))),
    false, .reading⟩

theorem crowdSession_full (client : ClientId) :
    sendBufferSize ≤ (crowdSession client).send.length := by
  rw [crowdSession, List.length_cons, List.length_replicate]
  decide

/-- The hub after clients `0`, ..., `n - 1` have joined: `Run` idle with its queues empty,
each of those clients with its channel full, no other client known, and the subscribers of
`ticker:BTCUSDT` those clients, newest first. -/
structure Crowd (n : Nat) (s : HubState) : Prop where
  running : s.running = true
  register : s.register = []
  unregister : s.unregister = []
  broadcast : s.broadcast = []
  joined : ∀ client < n, s.sessions client = some (crowdSession client)
  fresh : ∀ client, n ≤ client → s.sessions client = none
  subscribers :
    s.subscriptionManager.getSubscribers tickerBroadcast.channel = (List.range n).reverse

/-- A new client connects and is registered: its channel holds the welcome frame. -/
theorem run_serve_welcome_register {s : HubState} {client : ClientId}
    (unknown : s.sessions client = none) (running : s.running = true) (idle : s.register = []) :
    run s [.serve client, .welcome client 0, .runRegister] =
      next { s.setSession client ⟨[.welcome client 0], false, .reading⟩ with
        clients := s.clients.insert client } := by
  simp [run, step, unknown, running, idle, registerBufferSize, offer, sendBufferSize,
    HubState.setSession]

theorem Crowd.join {n : Nat} {s : HubState} (crowded : Crowd n s) :
    ∃ s', run s (joinCrowd n) = next s' ∧ Crowd (n + 1) s' := by
  have channel : buildChannelName "ticker" "BTCUSDT" = tickerBroadcast.channel := by decide
  rw [joinCrowd, run_append, run_serve_welcome_register (crowded.fresh n le_rfl)
    crowded.running crowded.register, next_bind,
    @run_subscribeRounds n _ _ [.welcome n 0] (by simp [HubState.setSession])
      (by rw [List.length_singleton, List.length_replicate]; decide)]
  refine ⟨_, rfl, ⟨crowded.running, crowded.register, crowded.unregister, crowded.broadcast,
    fun client below => ?_, fun client above => ?_, ?_⟩⟩
  · rcases Nat.lt_succ_iff_lt_or_eq.mp below with below | rfl
    · simp only [HubState.setSession_sessions_of_ne _ _ (Nat.ne_of_lt below),
        crowded.joined client below]
    · simp only [HubState.setSession_sessions_self, crowdSession, List.map_replicate,
        List.singleton_append]
  · have other : client ≠ n := Nat.ne_of_gt (Nat.lt_of_succ_le above)
    simp only [HubState.setSession_sessions_of_ne _ _ other,
      crowded.fresh client (Nat.le_of_succ_le above)]
  · rw [← channel, show 255 = 254 + 1 from rfl, getSubscribers_foldl_subscribe_replicate, channel]
    dsimp only
    rw [HubState.setSession_subscriptionManager, crowded.subscribers,
      List.insert_of_not_mem (by simp), List.range_succ, List.reverse_append]
    rfl

/-- The hub `crowd n` reaches. -/
theorem run_crowd (n : Nat) : ∃ s, run newHub (crowd n) = next s ∧ Crowd n s := by
  induction n with
  | zero =>
    exact ⟨newHub, rfl, rfl, rfl, rfl, rfl, fun _ below => absurd below (Nat.not_lt_zero _),
      fun _ _ => rfl, rfl⟩
  | succ n ih =>
    obtain ⟨s, ran, crowded⟩ := ih
    obtain ⟨s', joined, crowded'⟩ := crowded.join
    exact ⟨s', by rw [crowd, run_append, ran, next_bind, joined], crowded'⟩

section Crowd

variable {message : BroadcastMessage}

/-- Deliveries after `Run` blocked change nothing. -/
theorem foldl_deliver_deadlock (clients : List ClientId) :
    clients.foldl (fun outcome client => outcome.bind (deliver message · client)) deadlock =
      deadlock := by
  induction clients with
  | nil => rfl
  | cons client clients ih => exact ih

/-- Subscribers whose channels are open and full each take a place in `h.unregister`; when
there are more of them than places, the delivery that finds it full blocks `Run`. -/
theorem foldl_deliver_full (clients : List ClientId) {s : HubState}
    (full : ∀ client ∈ clients, ∃ session, s.sessions client = some session ∧
      session.sendClosed = false ∧ sendBufferSize ≤ session.send.length)
    (overflow : unregisterBufferSize - s.unregister.length < clients.length) :
    clients.foldl (fun outcome client => outcome.bind (deliver message · client)) (next s) =
      deadlock := by
  induction clients generalizing s with
  | nil => simp at overflow
  | cons client clients ih =>
    obtain ⟨session, found, opened, filled⟩ := full client (List.mem_cons_self _ _)
    rw [List.foldl_cons, next_bind]
    by_cases room : s.unregister.length < unregisterBufferSize
    · rw [deliver_of_full found opened filled room]
      refine ih (fun other mem => full other (List.mem_cons_of_mem _ mem)) ?_
      simp only [List.length_append, List.length_singleton, List.length_cons] at overflow ⊢
      omega
    · rw [deliver_deadlock found opened filled (Nat.not_lt.mp room), foldl_deliver_deadlock]

end Crowd

end Hub

end MarketSystem
