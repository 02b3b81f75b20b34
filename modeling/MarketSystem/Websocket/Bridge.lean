import MarketSystem.Websocket.Hub
import MarketSystem.Processor.Storage

/-!
# From the storage's pub/sub channels to subscribed clients

The processor publishes every saved ticker, book and trade on a Redis channel, the
`Broadcaster` strips the `market:` prefix from each message's channel and hands it to the hub,
and the hub delivers it to the subscribers of the resulting channel.  A client subscribes to
`buildChannelName(channel, symbol)`.  The storage puts the symbol before the kind and the
client the kind before the symbol, so the two names agree only when the symbol is the kind
itself.
-/

namespace MarketSystem

namespace Hub

open HubOutcome

/-- `strings.TrimPrefix`. -/
def trimPrefix (s pre : String) : String :=
  if pre.data.isPrefixOf s.data then ⟨s.data.drop pre.length⟩ else s

/-- `Broadcaster.handleRedisMessage`: strip `market:` and pass the decoded payload to
`Hub.Broadcast`; a payload that is not JSON is dropped. -/
def handleRedisMessage (msg : RedisMessage) : Option BroadcastMessage :=
  msg.payload.map fun data => ⟨trimPrefix msg.channel redisChannelMarket, data⟩

theorem trimPrefix_append (pre rest : String) : trimPrefix (pre ++ rest) pre = rest := by
  have isPrefix : pre.data.isPrefixOf (pre ++ rest).data = true := by
    rw [String.data_append]
    exact List.isPrefixOf_iff_prefix.mpr (List.prefix_append _ _)
  simp only [trimPrefix, isPrefix, if_true]
  exact String.ext (show (pre.data ++ rest.data).drop pre.data.length = rest.data from
    List.drop_left _ _)

/-- The part of `a:b` before its first colon is `a`, when `a` has no colon. -/
private theorem takeWhile_colon {a b : String} (colonFree : ':' ∉ a.data) :
    (a ++ ":" ++ b).data.takeWhile (· != ':') = a.data := by
  have kept : ∀ c ∈ a.data, (c != ':') = true := fun c mem => by
    simpa using fun same : c = ':' => colonFree (same ▸ mem)
  rw [String.data_append, String.data_append, List.append_assoc,
    List.takeWhile_append_of_pos kept]
  simp [show (":" : String).data = [':'] from rfl]

/-- The channel of a bridged storage message is the name a client subscribes to exactly when
the symbol equals the kind, for every symbol and kind without a colon. -/
theorem bridgedChannel_eq_buildChannelName_iff {symbol kind : String}
    (symbolColonFree : ':' ∉ symbol.data) (kindColonFree : ':' ∉ kind.data)
    (kindNonempty : kind ≠ "") :
    trimPrefix (marketChannel symbol kind) redisChannelMarket = buildChannelName kind symbol ↔
      symbol = kind := by
  rw [marketChannel, String.append_assoc, String.append_assoc, trimPrefix_append,
    ← String.append_assoc]
  by_cases empty : symbol = ""
  · subst empty
    have longer : ("" ++ ":" ++ kind : String).length ≠ kind.length := by
      rw [String.length_append, String.length_append]
      simp [show (":" : String).length = 1 from rfl]
    simp only [buildChannelName, ne_eq, not_true_eq_false, if_false]
    exact ⟨fun same => absurd (congrArg String.length same) longer,
      fun same => absurd same.symm kindNonempty⟩
  · simp only [buildChannelName, ne_eq, empty, not_false_eq_true, if_true]
    constructor
    · intro same
      have firstField := congrArg (fun s : String => s.data.takeWhile (· != ':')) same
      simp only [takeWhile_colon symbolColonFree, takeWhile_colon kindColonFree] at firstField
      exact String.ext firstField
    · rintro rfl
      rfl

theorem bridgedChannel_btc_ticker :
    ':' ∉ "BTCUSDT".data ∧ ':' ∉ dataTypeTicker.data ∧ dataTypeTicker ≠ "" ∧
      (trimPrefix (marketChannel "BTCUSDT" dataTypeTicker) redisChannelMarket =
          buildChannelName dataTypeTicker "BTCUSDT" ↔ "BTCUSDT" = dataTypeTicker) :=
  ⟨by decide, by decide, by decide,
    bridgedChannel_eq_buildChannelName_iff (by decide) (by decide) (by decide)⟩

/-- `{"symbol":"BTCUSDT"}`-keyed ticker, as the processor would save it. -/
def btcTicker : Ticker :=
  ⟨"BTCUSDT", 45000, 44999, 45001, 46000, 44000, 1000, 1700000000000⟩

/-- A client subscribes to the ticker of `BTCUSDT`, the processor saves a ticker for
`BTCUSDT`, the bridge forwards its message and `Run` broadcasts it: the client's channel holds
only the welcome and subscribed frames. -/
theorem saveTicker_not_delivered :
    ∃ s, run newHub ([.serve 0, .welcome 0 0, .runRegister,
        .read 0 (some (subscribeMessage dataTypeTicker "BTCUSDT")), .reply 0] ++
        ((saveTicker RedisState.empty btcTicker).published.filterMap handleRedisMessage).map
          .publish ++ [.runBroadcast]) = next s ∧
      s.sessions 0 = some ⟨[.welcome 0 0, .response "subscribed" (some ("ticker", "BTCUSDT"))],
        false, .reading⟩ :=
  ⟨_, rfl, rfl⟩

end Hub

end MarketSystem
