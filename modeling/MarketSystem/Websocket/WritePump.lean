import MarketSystem.Websocket.Hub
import MarketSystem.Collector.Subscriptions
import Mathlib.Tactic.IntervalCases

/-!
# The batches of a client's write pump

`writePump` drains a client's buffered `send` channel.  It receives one value in its `select`,
opens a writer and writes the value's JSON, takes `n := len(c.send)`, then receives and writes
`n` more values, each after a newline, and closes the writer, which sends the text message.
The producers (the welcome of `ServeHTTP`, `sendResponse`, `sendError` and
`broadcastToChannel`) only ever try a non-blocking send, and `Run` may close the channel.

This file models one client's channel together with its writer, one goroutine step per event,
so that every interleaving of the producers with the writer's steps is a run; the hub model
(`Hub`) takes a writer's receive as one step.  Every socket write is taken to succeed, and
`json.Marshal` is modelled by its contract (`Marshal`), which `encoding/json`'s output for the
frames meets (`jsonMarshal`).  Over every run, the text messages split
at their newlines are the encodings of the values taken off the channel, in the order they were
queued, each once, and no receive of the batching loop ever waits: the writer is the channel's
only receiver, so the `n` values it measured are still there.
-/

namespace MarketSystem

namespace WritePump

open Hub Adapters

/-- `json.Marshal` on the values queued on `send`, by its contract: it succeeds on all of them
(maps of strings, integers and decoded JSON), and its output holds no raw newline, since it
escapes control characters inside strings and puts no whitespace between tokens. -/
structure Marshal where
  encode : Frame → List Char
  newline_free : ∀ frame, '\n' ∉ encode frame

/-! ## `json.Marshal` of the frames -/

/-- `encoding/json`'s escape of one character of a string, as `json.Marshal` writes it (with
`escapeHTML`): quotes, backslashes and the control characters `\b`, `\f`, `\n`, `\r` and `\t`
by their short escapes, the other control characters and `<`, `>`, `&` as `\u00XX`, and the line
and paragraph separators as `\u2028` and `\u2029`. -/
def escapeChar (c : Char) : List Char :=
  if c = '"' ∨ c = '\\' then ['\\', c]
  else if c = '\n' then ['\\', 'n']
  else if c = '\r' then ['\\', 'r']
  else if c = '\t' then ['\\', 't']
  else if c.toNat = 8 then ['\\', 'b']
  else if c.toNat = 12 then ['\\', 'f']
  else if c.toNat < 32 ∨ c = '<' ∨ c = '>' ∨ c = '&' then
    ['\\', 'u', '0', '0', Nat.digitChar (c.toNat / 16), Nat.digitChar (c.toNat % 16)]
  else if c.toNat = 0x2028 ∨ c.toNat = 0x2029 then
    ['\\', 'u', '2', '0', '2', Nat.digitChar (c.toNat % 16)]
  else [c]

/-- A string as `encoding/json` writes it: quoted, each character escaped. -/
def quote (s : String) : List Char :=
  '"' :: s.data.flatMap escapeChar ++ ['"']

/-- `strconv.AppendInt(n, 10)`. -/
def intText (n : Int) : List Char :=
  (if n < 0 then ['-'] else []) ++ Nat.toDigits 10 n.natAbs

/-- `encoding/json`'s clean-up of an exponent: `e-07` becomes `e-7`. -/
def trimExponent (b : List Char) : List Char :=
  match b.reverse with
  | d :: '0' :: '-' :: 'e' :: rest => (d :: '-' :: 'e' :: rest).reverse
  | _ => b

/-- `encoding/json`'s `float64` encoder: `strconv.AppendFloat(f, 'f', -1, 64)`, or the `'e'`
form for magnitudes below `1e-6` and from `1e21` on, with its exponent cleaned up. -/
def floatText (x : ℚ) : List Char :=
  if x = 0 then ['0']
  else
    let digits := (Fmt.shortestDigits |x|).1
    let dp := (Fmt.shortestDigits |x|).2
    let body :=
      if |x| < 1 / 10 ^ 6 ∨ 10 ^ 21 ≤ |x| then trimExponent (Fmt.formatExponent digits dp).data
      else (Fmt.formatFixed digits dp).data
    if x < 0 then '-' :: body else body

/-- Texts joined with a separator. -/
def joinWith (sep : Char) : List (List Char) → List Char
  | [] => []
  | [part] => part
  | part :: parts => part ++ sep :: joinWith sep parts

/-- A map as `encoding/json` writes it, its entries given in the order of their keys. -/
def objectText (entries : List (String × List Char)) : List Char :=
  '\x7b' :: joinWith ',' (entries.map fun entry => quote entry.1 ++ ':' :: entry.2) ++ ['\x7d']

mutual

/-- `json.Marshal` of a decoded JSON value: a map's keys in byte order. -/
def marshalJson : Json → List Char
  | .null => "null".data
  | .bool b => if b then "true".data else "false".data
  | .number x => floatText x
  | .string s => quote s
  | .array items => '[' :: joinWith ',' (marshalItems items) ++ [']']
  | .object fields => objectText ((marshalEntries fields).mergeSort fun a b => Fmt.keyLE a.1 b.1)

/-- The items of an array, each marshalled. -/
def marshalItems : List Json → List (List Char)
  | [] => []
  | item :: items => marshalJson item :: marshalItems items

/-- The entries of a map, each value marshalled. -/
def marshalEntries : List (String × Json) → List (String × List Char)
  | [] => []
  | (key, value) :: entries => (key, marshalJson value) :: marshalEntries entries

end

/-- `json.Marshal` of the value each producer queues: the welcome map of `ServeHTTP` (the
client's id written as its number), the maps of `sendResponse` and `sendError`, and the map of
`broadcastToChannel`, each with its keys in order. -/
def marshalFrame : Frame → List Char
  | .welcome clientId timestamp =>
      objectText [("client_id", quote (toString clientId)),
        ("message", quote "Connected to Market WebSocket Server"),
        ("timestamp", intText timestamp), ("type", quote "welcome")]
  | .response type none => objectText [("type", quote type)]
  | .response type (some (channel, symbol)) =>
      objectText [("data", objectText [("channel", quote channel), ("symbol", quote symbol)]),
        ("type", quote type)]
  | .error message => objectText [("error", quote message), ("type", quote "error")]
  | .market channel data => objectText [("channel", quote channel), ("data", marshalJson data)]

example : marshalFrame (.response "subscribed" (some ("ticker", "BTCUSDT"))) =
    ("\x7b\"data\":\x7b\"channel\":\"ticker\",\"symbol\":\"BTCUSDT\"\x7d," ++
      "\"type\":\"subscribed\"\x7d").data := by
  decide

example : marshalFrame (.error "a<b\n") =
    "\x7b\"error\":\"a\\u003cb\\n\",\"type\":\"error\"\x7d".data := by
  decide

/-! ### No raw newline -/

theorem digitChar_ne_newline (n : Nat) : Nat.digitChar n ≠ '\n' := by
  by_cases small : n < 16
  · interval_cases n <;> decide
  · have star : Nat.digitChar n = '*' := by
      unfold Nat.digitChar
      repeat rw [if_neg (by omega)]
    rw [star]
    decide

theorem newline_not_mem_toDigitsCore (base : Nat) :
    ∀ fuel n (ds : List Char), '\n' ∉ ds → '\n' ∉ Nat.toDigitsCore base fuel n ds
  | 0, _, _, free => free
  | fuel + 1, n, ds, free => by
    have head : '\n' ∉ Nat.digitChar (n % base) :: ds :=
      List.not_mem_cons_of_ne_of_not_mem (digitChar_ne_newline _).symm free
    show '\n' ∉ if n / base = 0 then Nat.digitChar (n % base) :: ds
      else Nat.toDigitsCore base fuel (n / base) (Nat.digitChar (n % base) :: ds)
    split
    · exact head
    · exact newline_not_mem_toDigitsCore base fuel _ _ head

theorem newline_not_mem_toDigits (base n : Nat) : '\n' ∉ Nat.toDigits base n :=
  newline_not_mem_toDigitsCore base _ n [] (List.not_mem_nil _)

/-- A choice between two texts without a newline has none. -/
theorem newline_not_mem_ite {p : Prop} [Decidable p] {a b : List Char} (yes : p → '\n' ∉ a)
    (no : ¬p → '\n' ∉ b) : '\n' ∉ if p then a else b := by
  by_cases holds : p
  · rw [if_pos holds]
    exact yes holds
  · rw [if_neg holds]
    exact no holds

theorem newline_not_mem_escapeChar (c : Char) : '\n' ∉ escapeChar c := by
  have hex : ∀ n, '\n' ≠ Nat.digitChar n := fun n => (digitChar_ne_newline n).symm
  unfold escapeChar
  refine newline_not_mem_ite (fun quoted => ?_) fun _ =>
    newline_not_mem_ite (fun _ => by decide) fun newline => ?_
  · rcases quoted with rfl | rfl <;> decide
  repeat refine newline_not_mem_ite (fun _ => by decide) fun _ => ?_
  refine newline_not_mem_ite (fun _ => by simp [hex]) fun _ =>
    newline_not_mem_ite (fun _ => by simp [hex]) fun _ => ?_
  exact fun mem => newline (List.mem_singleton.mp mem).symm

theorem newline_not_mem_quote (s : String) : '\n' ∉ quote s := by
  simp [quote, List.mem_flatMap, newline_not_mem_escapeChar]

theorem newline_not_mem_intText (n : Int) : '\n' ∉ intText n := by
  unfold intText
  split_ifs <;> simp [newline_not_mem_toDigits]

theorem newline_not_mem_shortestDigits (a : ℚ) : '\n' ∉ (Fmt.shortestDigits a).1 := by
  unfold Fmt.shortestDigits
  dsimp only
  intro mem
  rw [List.mem_reverse] at mem
  exact newline_not_mem_toDigits 10 _ (List.mem_reverse.mp ((List.dropWhile_sublist _).subset mem))

theorem newline_not_mem_formatFixed {digits : List Char} (free : '\n' ∉ digits) (dp : Int) :
    '\n' ∉ (Fmt.formatFixed digits dp).data := by
  have cell : ∀ i : Int,
      (if 0 ≤ i ∧ i < (digits.length : Int) then digits.getD i.toNat '0' else '0') ≠ '\n' := by
    intro i
    split
    · rw [List.getD_eq_getElem?_getD]
      cases found : digits[i.toNat]? with
      | none => decide
      | some c => exact fun same => free (same ▸ List.getElem?_mem found)
    · decide
  unfold Fmt.formatFixed
  dsimp only
  intro mem
  rcases List.mem_append.mp mem with whole | rest
  · split_ifs at whole
    · obtain ⟨i, -, same⟩ := List.mem_map.mp whole
      exact cell _ same
    · exact absurd whole (by decide)
  · split_ifs at rest
    · exact List.not_mem_nil _ rest
    · rcases List.mem_cons.mp rest with same | fraction
      · exact absurd same (by decide)
      · obtain ⟨i, -, same⟩ := List.mem_map.mp fraction
        exact cell _ same

theorem newline_not_mem_formatExponent {digits : List Char} (free : '\n' ∉ digits) (dp : Int) :
    '\n' ∉ (Fmt.formatExponent digits dp).data := by
  unfold Fmt.formatExponent
  dsimp only
  intro mem
  rcases List.mem_append.mp mem with mantissa | exponent
  · split at mantissa <;> simp_all
  · split_ifs at exponent <;> simp [newline_not_mem_toDigits] at exponent

theorem mem_of_mem_trimExponent {b : List Char} {c : Char} (mem : c ∈ trimExponent b) : c ∈ b := by
  unfold trimExponent at mem
  split at mem
  · next d rest reversed =>
    rw [← List.mem_reverse, reversed]
    rw [List.mem_reverse] at mem
    exact (((List.Sublist.refl _).cons '0').cons₂ d).subset mem
  · exact mem

theorem newline_not_mem_floatText (x : ℚ) : '\n' ∉ floatText x := by
  have digits := newline_not_mem_shortestDigits |x|
  have fixed := newline_not_mem_formatFixed digits (Fmt.shortestDigits |x|).2
  have exponent := newline_not_mem_formatExponent digits (Fmt.shortestDigits |x|).2
  unfold floatText
  dsimp only
  split_ifs <;> simp_all [mt mem_of_mem_trimExponent]

theorem newline_not_mem_joinWith {sep : Char} (ne : sep ≠ '\n') :
    ∀ {parts : List (List Char)}, (∀ part ∈ parts, '\n' ∉ part) → '\n' ∉ joinWith sep parts
  | [], _ => List.not_mem_nil _
  | [part], free => free part (List.mem_singleton_self _)
  | part :: next :: parts, free => by
    simp only [joinWith, List.mem_append, List.mem_cons, not_or]
    exact ⟨free part (List.mem_cons_self _ _), ne.symm,
      newline_not_mem_joinWith ne fun other mem => free other (List.mem_cons_of_mem _ mem)⟩

theorem newline_not_mem_objectText {entries : List (String × List Char)}
    (free : ∀ entry ∈ entries, '\n' ∉ entry.2) : '\n' ∉ objectText entries := by
  simp only [objectText, List.mem_cons, List.mem_append, List.mem_singleton, not_or]
  refine ⟨⟨by decide, newline_not_mem_joinWith (by decide) ?_⟩, by decide⟩
  simp only [List.mem_map]
  rintro _ ⟨entry, mem, rfl⟩
  simp [newline_not_mem_quote, free entry mem]

mutual

theorem newline_not_mem_marshalJson : (j : Json) → '\n' ∉ marshalJson j
  | .null => by decide
  | .bool b => by cases b <;> decide
  | .number x => newline_not_mem_floatText x
  | .string s => newline_not_mem_quote s
  | .array items => by
    simp only [marshalJson, List.mem_cons, List.mem_append, List.mem_singleton, not_or]
    exact ⟨⟨by decide, newline_not_mem_joinWith (by decide) (newline_not_mem_marshalItems items)⟩,
      by decide⟩
  | .object fields => newline_not_mem_objectText fun entry mem =>
      newline_not_mem_marshalEntries fields entry (List.mem_mergeSort.mp mem)

theorem newline_not_mem_marshalItems :
    (items : List Json) → ∀ part ∈ marshalItems items, '\n' ∉ part
  | [] => nofun
  | item :: items => by
    simp only [marshalItems, List.forall_mem_cons]
    exact ⟨newline_not_mem_marshalJson item, newline_not_mem_marshalItems items⟩

theorem newline_not_mem_marshalEntries :
    (entries : List (String × Json)) → ∀ entry ∈ marshalEntries entries, '\n' ∉ entry.2
  | [] => nofun
  | (key, value) :: entries => by
    simp only [marshalEntries, List.forall_mem_cons]
    exact ⟨newline_not_mem_marshalJson value, newline_not_mem_marshalEntries entries⟩

end

theorem newline_not_mem_marshalFrame (frame : Frame) : '\n' ∉ marshalFrame frame := by
  rcases frame with _ | ⟨type, _ | ⟨channel, symbol⟩⟩ | _ | _ <;>
    apply newline_not_mem_objectText <;>
    simp [newline_not_mem_quote, newline_not_mem_intText, newline_not_mem_marshalJson,
      newline_not_mem_objectText]

/-- `json.Marshal` on the frames, which meets its contract. -/
def jsonMarshal : Marshal :=
  ⟨marshalFrame, newline_not_mem_marshalFrame⟩

/-- Where `writePump` is. -/
inductive Writer where
  /-- In its `select`. -/
  | selecting
  /-- Has received `first`, opened a writer and written its encoding. -/
  | opened (first : Frame)
  /-- In the batching loop with `pending` receives left, having written `batch`. -/
  | batching (pending : Nat) (batch : List Frame)
  /-- Returned, after writing the close message. -/
  | stopped

/-- One client's `send` channel and its writer; `queued` records every value a producer
queued, in order, and is read by no step. -/
structure PumpState where
  send : List Frame
  sendClosed : Bool
  writer : Writer
  /-- The values of each text message `w.Close` has sent, in order. -/
  messages : List (List Frame)
  queued : List Frame

/-- `NewClient`: an empty channel, and the pump in its `select`. -/
def newPump : PumpState :=
  ⟨[], false, .selecting, [], []⟩

/-- One step of a producer, of `Run` or of the writer. -/
inductive PumpEvent where
  /-- A producer's non-blocking send (`select { case c.send <- v: default: }`). -/
  | offer (frame : Frame)
  /-- `Run` closes the channel. -/
  | close
  /-- The writer's `select` receives from `send`. -/
  | receive
  /-- `n := len(c.send)`. -/
  | measure
  /-- One iteration of the batching loop: a newline, a receive, and the value's encoding. -/
  | batch
  /-- `w.Close()` sends the text message. -/
  | flush
  /-- The ping ticker fires in the `select`: a ping control frame, no text. -/
  | ping

/-- One event; `none` when it cannot happen now, or when it panics (a send on the closed
channel, a second `close`), which ends the program.  A batching receive from an empty channel
would wait, or, once the channel is closed, read a `nil`: it is `none` too, and
`writePump_in_order` shows that it never happens. -/
def step (s : PumpState) : PumpEvent → Option PumpState
  | .offer frame =>
      if s.sendClosed then none
      else if s.send.length < sendBufferSize then
        some { s with send := s.send ++ [frame], queued := s.queued ++ [frame] }
      else some s
  | .close => if s.sendClosed then none else some { s with sendClosed := true }
  | .receive =>
      match s.writer, s.send with
      | .selecting, frame :: rest => some { s with send := rest, writer := .opened frame }
      | .selecting, [] => if s.sendClosed then some { s with writer := .stopped } else none
      | _, _ => none
  | .measure =>
      match s.writer with
      | .opened first => some { s with writer := .batching s.send.length [first] }
      | _ => none
  | .batch =>
      match s.writer, s.send with
      | .batching (pending + 1) batch, frame :: rest =>
          some { s with send := rest, writer := .batching pending (batch ++ [frame]) }
      | _, _ => none
  | .flush =>
      match s.writer with
      | .batching 0 batch => some { s with writer := .selecting, messages := s.messages ++ [batch] }
      | _ => none
  | .ping =>
      match s.writer with
      | .selecting => some s
      | _ => none

/-- Run a sequence of events, stopping at the first one that cannot happen. -/
def run (s : PumpState) : List PumpEvent → Option PumpState
  | [] => some s
  | event :: events => (step s event).bind fun s => run s events

/-- The values a writer has written and not yet sent. -/
def Writer.held : Writer → List (List Frame)
  | .opened first => [[first]]
  | .batching _ batch => [batch]
  | _ => []

/-- The text of one message: the first value's encoding, then a newline and the encoding of
each further value. -/
def batchText (marshal : Marshal) : List Frame → List Char
  | [] => []
  | first :: rest => marshal.encode first ++ rest.flatMap fun frame => '\n' :: marshal.encode frame

/-- The text messages sent, then the one being written. -/
def PumpState.texts (marshal : Marshal) (s : PumpState) : List (List Char) :=
  (s.messages ++ s.writer.held).map (batchText marshal)

/-- Splitting a message at its newlines gives back the encodings of its values. -/
theorem splitChars_batchText (marshal : Marshal) (first : Frame) (rest : List Frame) :
    splitChars '\n' (batchText marshal (first :: rest)) = (first :: rest).map marshal.encode := by
  induction rest generalizing first with
  | nil =>
      simp only [batchText, List.flatMap_nil, List.append_nil, List.map_cons, List.map_nil]
      exact splitChars_of_not_mem (marshal.newline_free first)
  | cons next rest ih =>
      have later : batchText marshal (first :: next :: rest) =
          marshal.encode first ++ '\n' :: batchText marshal (next :: rest) := by
        simp [batchText]
      rw [later, splitChars_append_sep (marshal.newline_free first), ih]
      rfl

/-- Splitting each message at its newlines gives back the encodings of all their values. -/
theorem flatMap_splitChars_batchText (marshal : Marshal) {batches : List (List Frame)}
    (nonempty : ∀ batch ∈ batches, batch ≠ []) :
    (batches.map (batchText marshal)).flatMap (splitChars '\n') =
      batches.flatten.map marshal.encode := by
  induction batches with
  | nil => rfl
  | cons batch batches ih =>
      obtain ⟨first, rest, rfl⟩ := List.exists_cons_of_ne_nil (nonempty batch (List.mem_cons_self _ _))
      simp only [List.map_cons, List.flatMap_cons, List.flatten_cons, List.map_append,
        splitChars_batchText, ih fun held member => nonempty held (List.mem_cons_of_mem _ member)]

/-- What every reachable state satisfies: the values the writer took, then the values still
queued, are every value queued, in order; every message holds a value; and the loop never has
more receives left than the channel holds values. -/
structure Consistent (s : PumpState) : Prop where
  conservation : (s.messages ++ s.writer.held).flatten ++ s.send = s.queued
  nonempty : ∀ batch ∈ s.messages ++ s.writer.held, batch ≠ []
  pending_le : ∀ pending batch, s.writer = .batching pending batch → pending ≤ s.send.length

theorem consistent_newPump : Consistent newPump :=
  ⟨rfl, nofun, nofun⟩

theorem Consistent.step {s s' : PumpState} {event : PumpEvent} (consistent : Consistent s)
    (stepped : WritePump.step s event = some s') : Consistent s' := by
  obtain ⟨send, sendClosed, writer, messages, queued⟩ := s
  obtain ⟨conservation, nonempty, pending_le⟩ := consistent
  dsimp only at conservation nonempty pending_le
  cases event with
  | offer frame =>
      simp only [WritePump.step] at stepped
      split_ifs at stepped with closed room
      · cases stepped
        refine ⟨by simpa using congrArg (· ++ [frame]) conservation, nonempty, ?_⟩
        intro pending batch holds
        have := pending_le pending batch holds
        simp only [List.length_append, List.length_singleton]
        omega
      · cases stepped
        exact ⟨conservation, nonempty, pending_le⟩
  | close =>
      simp only [WritePump.step] at stepped
      split_ifs at stepped
      cases stepped
      exact ⟨conservation, nonempty, pending_le⟩
  | receive =>
      cases writer <;> cases send <;> simp only [WritePump.step, reduceCtorEq] at stepped
      case selecting.nil =>
        split_ifs at stepped
        cases stepped
        exact ⟨by simpa [Writer.held] using conservation, by simpa [Writer.held] using nonempty,
          nofun⟩
      case selecting.cons frame rest =>
        cases stepped
        refine ⟨by simpa [Writer.held] using conservation, ?_, nofun⟩
        simp only [Writer.held, List.append_nil, List.mem_append, List.mem_singleton] at nonempty ⊢
        rintro held (member | rfl)
        · exact nonempty held member
        · simp
  | measure =>
      cases writer <;> simp only [WritePump.step, reduceCtorEq] at stepped
      case opened first =>
        cases stepped
        refine ⟨conservation, nonempty, ?_⟩
        rintro pending batch ⟨⟩
        exact le_refl _
  | batch =>
      cases writer <;> cases send <;> simp only [WritePump.step, reduceCtorEq] at stepped
      case batching.cons pending batch frame rest =>
        cases pending with
        | zero => cases stepped
        | succ pending =>
          cases stepped
          have room := pending_le (pending + 1) batch rfl
          refine ⟨by simpa [Writer.held] using conservation, ?_, ?_⟩
          · simp only [Writer.held, List.mem_append, List.mem_singleton] at nonempty ⊢
            rintro held (member | rfl)
            · exact nonempty held (.inl member)
            · simp
          · rintro left written ⟨⟩
            simp only [List.length_cons] at room
            show pending ≤ rest.length
            omega
  | flush =>
      cases writer <;> simp only [WritePump.step, reduceCtorEq] at stepped
      case batching pending batch =>
        cases pending with
        | zero =>
          cases stepped
          exact ⟨by simpa [Writer.held] using conservation, by simpa [Writer.held] using nonempty,
            nofun⟩
        | succ pending => cases stepped
  | ping =>
      cases writer <;> simp only [WritePump.step, reduceCtorEq] at stepped
      case selecting =>
        cases stepped
        exact ⟨conservation, nonempty, pending_le⟩

theorem Consistent.run {s : PumpState} (consistent : Consistent s) :
    ∀ {events : List PumpEvent} {s' : PumpState}, run s events = some s' → Consistent s'
  | [], _, reached => by
      cases reached
      exact consistent
  | event :: events, s', reached => by
      simp only [WritePump.run, Option.bind_eq_some] at reached
      obtain ⟨next, stepped, rest⟩ := reached
      exact (consistent.step stepped).run rest

/-- In a consistent state, a batching receive always finds a value. -/
theorem Consistent.batch_isSome {s : PumpState} (consistent : Consistent s) {pending : Nat}
    {batch : List Frame} (batching : s.writer = .batching (pending + 1) batch) :
    (WritePump.step s .batch).isSome := by
  have room := consistent.pending_le _ _ batching
  obtain ⟨send, sendClosed, writer, messages, queued⟩ := s
  cases send with
  | nil => simp at room
  | cons frame rest =>
      simp only at batching
      simp [WritePump.step, batching]

theorem writePump_in_order (marshal : Marshal) {events : List PumpEvent} {s : PumpState}
    (reached : run newPump events = some s) :
    (s.texts marshal).flatMap (splitChars '\n') ++ s.send.map marshal.encode =
        s.queued.map marshal.encode ∧
      ∀ pending batch, s.writer = .batching (pending + 1) batch → (step s .batch).isSome := by
  have consistent := consistent_newPump.run reached
  refine ⟨?_, fun _ _ batching => consistent.batch_isSome batching⟩
  rw [PumpState.texts, flatMap_splitChars_batchText marshal consistent.nonempty,
    ← List.map_append, consistent.conservation]

/-- A welcome, then two replies queued while the writer is between its receive and its
`len(c.send)`. -/
def lateReplies : List PumpEvent :=
  [.offer (.welcome 0 0), .receive, .offer (.response "pong" none),
    .offer (.error "Missing 'action' field"), .measure, .batch, .batch, .flush]

/-- The one message of `lateReplies` carries all three values, in order. -/
theorem writePump_in_order_late_replies :
    ∃ s, run newPump lateReplies = some s ∧
      s.messages = [[.welcome 0 0, .response "pong" none, .error "Missing 'action' field"]] ∧
      ∀ marshal : Marshal,
        (s.texts marshal).flatMap (splitChars '\n') ++ s.send.map marshal.encode =
            s.queued.map marshal.encode ∧
          ∀ pending batch, s.writer = .batching (pending + 1) batch → (step s .batch).isSome :=
  ⟨_, rfl, rfl, fun marshal => @writePump_in_order marshal lateReplies _ rfl⟩

end WritePump

end MarketSystem
