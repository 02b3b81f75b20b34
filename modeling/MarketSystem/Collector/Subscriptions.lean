import MarketSystem.Collector.Adapters
import MarketSystem.Collector.Session

/-!
# What the venue adapters subscribe to, and what they resubscribe after a reconnect

`Subscribe` writes one subscription message and, when the write succeeds, appends what it asked
for to the adapter's `subscriptions`; `resubscribe`, run after every reconnect, writes a message
built from that list.  Binance saves its stream names and sends them back unchanged.  OKX asks
for `(channel, instId)` pairs but saves each one as the string `channel:instId`, and its
`resubscribe` splits every saved string at `:` again, keeping only those that split in two.

The session model (`Session`) carries the saved strings; this file gives each venue's encoding
of them and proves when OKX decodes what it saved: exactly when no `instId` contains `:`, which
`formatSymbol` does not ensure.
-/

namespace MarketSystem

namespace Adapters

/-- `strings.ToLower`, on the ASCII letters symbols are spelled with. -/
def toLower (s : String) : String :=
  ⟨s.data.map Char.toLower⟩

/-- `strings.HasSuffix(s, suffix)`. -/
def hasSuffix (s suffix : String) : Bool :=
  suffix.data.reverse.isPrefixOf s.data.reverse

/-- `strings.Split` with a one-character separator, on characters: the pieces between
separators, in order, so there is always one more piece than separators. -/
def splitChars (sep : Char) : List Char → List (List Char)
  | [] => [[]]
  | c :: cs =>
      let pieces := splitChars sep cs
      if c = sep then [] :: pieces else (c :: pieces.headD []) :: pieces.tail

/-- `strings.Split(s, sep)` for a one-character separator. -/
def splitOn (sep : Char) (s : String) : List String :=
  (splitChars sep s.data).map String.mk

/-- Text without the separator is one piece. -/
theorem splitChars_of_not_mem {sep : Char} {cs : List Char} (absent : sep ∉ cs) :
    splitChars sep cs = [cs] := by
  induction cs with
  | nil => rfl
  | cons c cs ih =>
      simp only [List.mem_cons, not_or] at absent
      simp [splitChars, ih absent.2, Ne.symm absent.1]

/-- Text without the separator, then the separator, starts a new piece. -/
theorem splitChars_append_sep {sep : Char} {first : List Char} (absent : sep ∉ first)
    (rest : List Char) :
    splitChars sep (first ++ sep :: rest) = first :: splitChars sep rest := by
  induction first with
  | nil => simp [splitChars]
  | cons c cs ih =>
      simp only [List.mem_cons, not_or] at absent
      simp [splitChars, ih absent.2, Ne.symm absent.1]

/-! ## Binance -/

namespace BinanceAdapter

/-- The stream `Subscribe` asks for on one channel of a lower-cased symbol; a channel it does
not know is skipped. -/
def streamName (symbolLower channel : String) : Option String :=
  if channel = dataTypeTicker then some (symbolLower ++ "@ticker")
  else if channel = dataTypeDepth then some (symbolLower ++ "@depth20@100ms")
  else if channel = dataTypeTrade then some (symbolLower ++ "@trade")
  else if channel = dataTypeKline then some (symbolLower ++ "@kline_1m")
  else none

/-- The `params` of `Subscribe`'s message, which are also the streams it saves: `resubscribe`
sends the saved list as its `params`, so Binance resubscribes to what it subscribed to. -/
def subscribeStreams (symbols channels : List String) : List String :=
  symbols.flatMap fun symbol => channels.filterMap (streamName (toLower symbol))

end BinanceAdapter

/-! ## OKX -/

namespace OKXAdapter

/-- `formatSymbol`: `BTCUSDT` becomes `BTC-USDT`; a symbol that does not end in `USDT` is kept
as it is. -/
def formatSymbol (symbol : String) : String :=
  if hasSuffix symbol "USDT" then ⟨symbol.data.take (symbol.data.length - 4)⟩ ++ "-USDT"
  else symbol

/-- The OKX channel `Subscribe` asks for on one of the collector's channels; a channel it does
not know is skipped. -/
def okxChannel (channel : String) : Option String :=
  if channel = dataTypeTicker then some "tickers"
  else if channel = dataTypeDepth then some "books5"
  else if channel = dataTypeTrade then some "trades"
  else if channel = dataTypeKline then some "candle1m"
  else none

/-- `Subscribe`'s `args`: a `(channel, instId)` pair per symbol and known channel. -/
def subscribeArgs (symbols channels : List String) : List (String × String) :=
  symbols.flatMap fun symbol =>
    channels.filterMap fun channel => (okxChannel channel).map (·, formatSymbol symbol)

/-- `fmt.Sprintf("%s:%s", okxChannel, instId)`: what `Subscribe` saves for a pair. -/
def subscriptionKey (arg : String × String) : String :=
  arg.1 ++ ":" ++ arg.2

/-- The pair `resubscribe` rebuilds from one saved string, if it splits in two at `:`. -/
def parseSubscription (sub : String) : Option (String × String) :=
  match splitOn ':' sub with
  | [channel, instId] => some (channel, instId)
  | _ => none

/-- `resubscribe`'s `args`: the pairs rebuilt from the saved strings; a string that does not
split in two is skipped. -/
def resubscribeArgs (subscriptions : List String) : List (String × String) :=
  subscriptions.filterMap parseSubscription

theorem okxChannel_colon_free {channel okx : String} (known : okxChannel channel = some okx) :
    ':' ∉ okx.data := by
  simp only [okxChannel] at known
  split_ifs at known <;> cases known <;> decide

/-- A pair whose parts hold no `:` is rebuilt from its saved string. -/
theorem parseSubscription_subscriptionKey {channel instId : String}
    (channelFree : ':' ∉ channel.data) (instIdFree : ':' ∉ instId.data) :
    parseSubscription (subscriptionKey (channel, instId)) = some (channel, instId) := by
  have pieces : (subscriptionKey (channel, instId)).data = channel.data ++ ':' :: instId.data := by
    simp [subscriptionKey]
  simp [parseSubscription, splitOn, pieces, splitChars_append_sep channelFree,
    splitChars_of_not_mem instIdFree]

/-- OKX resubscribes to exactly the pairs it subscribed to, in order, as long as no symbol's
`instId` contains `:`. -/
theorem resubscribeArgs_subscribeArgs {symbols : List String} (channels : List String)
    (colonFree : ∀ symbol ∈ symbols, ':' ∉ (formatSymbol symbol).data) :
    resubscribeArgs ((subscribeArgs symbols channels).map subscriptionKey) =
      subscribeArgs symbols channels := by
  have rebuilt : ∀ arg ∈ subscribeArgs symbols channels,
      parseSubscription (subscriptionKey arg) = some arg := by
    intro arg member
    simp only [subscribeArgs, List.mem_flatMap, List.mem_filterMap, Option.map_eq_some'] at member
    obtain ⟨symbol, mem, channel, _, okx, known, rfl⟩ := member
    exact parseSubscription_subscriptionKey (okxChannel_colon_free known) (colonFree symbol mem)
  simp only [resubscribeArgs, List.filterMap_map]
  exact (List.filterMap_congr (fun arg member => by simpa using rebuilt arg member)).trans
    (List.filterMap_some _)

theorem resubscribeArgs_btc_eth :
    (∀ symbol ∈ ["BTCUSDT", "ETHUSDT"], ':' ∉ (formatSymbol symbol).data) ∧
      resubscribeArgs ((subscribeArgs ["BTCUSDT", "ETHUSDT"] [dataTypeTicker, dataTypeTrade]).map
          subscriptionKey) = subscribeArgs ["BTCUSDT", "ETHUSDT"] [dataTypeTicker, dataTypeTrade] :=
  ⟨by decide, resubscribeArgs_subscribeArgs _ (by decide)⟩

/-- A symbol that holds `:` and does not end in `USDT`: `formatSymbol` keeps it as its
`instId`. -/
def colonSymbol : String :=
  "BTC:USD"

theorem okx_resubscribe_drops_pair :
    OKXAdapter.subscribeArgs [colonSymbol] [dataTypeTicker] = [("tickers", "BTC:USD")] ∧
      ∃ s, Session.run Session.newSession [.connect true,
          .subscribe ((subscribeArgs [colonSymbol] [dataTypeTicker]).map subscriptionKey) true,
          .readerSelect 0, .readError 0, .attempt 0 true, .resubscribe 0 true] = .next s ∧
        s.sent = [(0, ["tickers:BTC:USD"]), (1, ["tickers:BTC:USD"])] ∧
        resubscribeArgs ["tickers:BTC:USD"] = [] :=
  ⟨rfl, _, rfl, rfl, rfl⟩

end OKXAdapter

end Adapters

end MarketSystem
