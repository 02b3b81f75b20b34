import MarketSystem.Processor.Bus

/-!
# Partitions between the collector and the processor

`KafkaPublisher.Publish` writes each record to the topic of its type with key `[]byte(symbol)`,
through a `kafka.Writer` whose balancer is `kafka.LeastBytes`.  That balancer never reads the
key: it sends each message to the first partition that has been sent the fewest bytes so far.
On the other side, every processor instance is a member of one consumer group; the group
assigns each partition of a topic to one member, whose `Reader` fetches from its partitions
concurrently and hands the messages to `KafkaConsumer.consume` in the order they arrive.

This file models the partitions' logs, the writer's byte counters and the members' positions.
A run is any sequence of publishes and fetches, so every order in which the partition readers
can deliver is a run.  Within one partition the handler sees the log in offset order
(`InOrder`); across partitions nothing orders it, and two records of one symbol written back
to back land on different partitions as soon as the topic has two.
-/

namespace MarketSystem

namespace Kafka

open Processor

/-- A message as `Publish` builds it.  Its value is `utils.ToJSONBytes(data)`; the writer only
looks at that encoding's length. -/
structure Message where
  record : MarketData
  valueLength : Nat

/-- `len(msg.Key) + len(msg.Value)`: what `LeastBytes` adds to the chosen partition's counter
(the Go counter is a `uint64`, which no run of this system fills). -/
def Message.size (m : Message) : Nat :=
  m.record.symbol.utf8ByteSize + m.valueLength

/-! ## The balancer -/

/-- The loop of `LeastBytes.Balance` over `lb.counters[1:]`: it keeps the first partition with
the fewest bytes among those scanned, replacing it only on a strictly smaller count. -/
def leastBytesScan (index minIndex minBytes : Nat) : List Nat → Nat
  | [] => minIndex
  | bytes :: rest =>
      if bytes < minBytes then leastBytesScan (index + 1) index bytes rest
      else leastBytesScan (index + 1) minIndex minBytes rest

/-- The partition `LeastBytes.Balance` picks, starting from `minIndex := 0` and
`minBytes := lb.counters[0].bytes`. -/
def leastBytesIndex : List Nat → Nat
  | [] => 0
  | bytes :: rest => leastBytesScan 1 0 bytes rest

theorem leastBytesScan_lt {index minIndex minBytes : Nat} {rest : List Nat}
    (scanned : minIndex < index) :
    leastBytesScan index minIndex minBytes rest < index + rest.length := by
  induction rest generalizing index minIndex minBytes with
  | nil => simpa [leastBytesScan] using scanned
  | cons bytes rest ih =>
      simp only [leastBytesScan, List.length_cons]
      split
      · have := @ih (index + 1) index bytes (by omega); omega
      · have := @ih (index + 1) minIndex minBytes (by omega); omega

theorem leastBytesIndex_lt {counters : List Nat} (nonempty : 0 < counters.length) :
    leastBytesIndex counters < counters.length := by
  cases counters with
  | nil => simp at nonempty
  | cons bytes rest =>
      simpa [leastBytesIndex, Nat.add_comm] using @leastBytesScan_lt 1 0 bytes rest Nat.zero_lt_one

/-- No later partition holding at least `minBytes` displaces the one already kept. -/
theorem leastBytesScan_of_le {index minIndex minBytes : Nat} {rest : List Nat}
    (heavier : ∀ bytes ∈ rest, minBytes ≤ bytes) :
    leastBytesScan index minIndex minBytes rest = minIndex := by
  induction rest generalizing index with
  | nil => rfl
  | cons bytes rest ih =>
      simp only [List.mem_cons, forall_eq_or_imp] at heavier
      simp only [leastBytesScan, if_neg (Nat.not_lt.mpr heavier.1), ih heavier.2]

/-- Fresh counters send the first message to partition 0. -/
@[simp]
theorem leastBytesIndex_replicate_zero (partitions : Nat) :
    leastBytesIndex (List.replicate partitions 0) = 0 := by
  cases partitions with
  | zero => rfl
  | succ rest => exact leastBytesScan_of_le fun bytes _ => Nat.zero_le bytes

/-! ## Topics -/

/-- A topic: one log per partition, in offset order, and the writer's byte counter for each
partition.  A topic has at least one partition. -/
structure Topic where
  logs : List (List Message)
  counters : List Nat
  aligned : counters.length = logs.length
  nonempty : 0 < logs.length

/-- A topic of `partitions` empty partitions, before its writer has balanced a message. -/
def Topic.empty (partitions : Nat) (positive : 0 < partitions) : Topic where
  logs := List.replicate partitions []
  counters := List.replicate partitions 0
  aligned := by simp
  nonempty := by simpa using positive

/-- The log of one partition (empty past the last partition). -/
def Topic.log (topic : Topic) (partition : Nat) : List Message :=
  topic.logs[partition]?.getD []

/-- The partition the writer's balancer sends the next message to. -/
def Topic.balance (topic : Topic) : Nat :=
  leastBytesIndex topic.counters

/-- `Writer.WriteMessages` of one message: append it to the balanced partition's log and add
its size to that partition's counter. -/
def Topic.write (topic : Topic) (m : Message) : Topic where
  logs := topic.logs.modify (· ++ [m]) topic.balance
  counters := topic.counters.modify (· + m.size) topic.balance
  aligned := by simp [topic.aligned]
  nonempty := by simpa using topic.nonempty

theorem Topic.balance_lt (topic : Topic) : topic.balance < topic.logs.length :=
  topic.aligned ▸ leastBytesIndex_lt (topic.aligned ▸ topic.nonempty)

/-- A write appends to the balanced partition's log and leaves every other log as it is. -/
theorem Topic.log_write (topic : Topic) (m : Message) (partition : Nat) :
    (topic.write m).log partition =
      if topic.balance = partition then topic.log partition ++ [m] else topic.log partition := by
  have inRange := topic.balance_lt
  simp only [Topic.log, Topic.write, List.getElem?_modify]
  split
  · subst partition
    simp [List.getElem?_eq_getElem inRange]
  · cases topic.logs[partition]? <;> rfl

@[simp]
theorem Topic.write_counters (topic : Topic) (m : Message) :
    (topic.write m).counters = topic.counters.modify (· + m.size) topic.balance :=
  rfl

/-! ## Publishing and consuming -/

/-- One call of the processor's topic handler: where the message was fetched from, the member
whose `consume` loop fetched it, and the record `utils.FromJSONBytes` decoded from it. -/
structure Delivery where
  topic : String
  partition : Nat
  member : Nat
  data : MarketData

/-- The topics, the group's reader position in every partition, and the handler calls so far.
-/
structure KafkaState where
  topics : String → Topic
  positions : String × Nat → Nat
  handled : List Delivery

/-- Every topic with its configured number of partitions, nothing written or fetched. -/
def KafkaState.init (partitions : String → Nat) (positive : ∀ topic, 0 < partitions topic) :
    KafkaState where
  topics topic := Topic.empty (partitions topic) (positive topic)
  positions _ := 0
  handled := []

/-- What can happen next: `Collector.handleMarketData` publishes a record (the length of its JSON
encoding given), or a group member's reader fetches the next message of one of its partitions
and `consume` hands it to the topic's handler. -/
inductive KafkaEvent where
  | publish (data : MarketData) (valueLength : Nat)
  | fetch (topic : String) (member partition : Nat)

/-- One event, given the group's assignment `owner` of each topic's partitions to members.  A
record of an unknown type is refused by `Publish` (`unknown data type`) and written nowhere; a
fetch by a member that does not own the partition, or from a partition with nothing new, is not
enabled.  A decoded value that fails to parse would be committed and skipped, but every value
here is the encoding of a record, so the handler always runs. -/
def step (owner : String → Nat → Nat) (s : KafkaState) : KafkaEvent → Option KafkaState
  | .publish data valueLength =>
      let topic := getTopicByType data.type
      if topic = "" then some s
      else some { s with
        topics := Function.update s.topics topic ((s.topics topic).write ⟨data, valueLength⟩) }
  | .fetch topic member partition =>
      if owner topic partition = member then
        match ((s.topics topic).log partition)[s.positions (topic, partition)]? with
        | none => none
        | some m => some { s with
            positions := Function.update s.positions (topic, partition)
              (s.positions (topic, partition) + 1)
            handled := s.handled ++ [⟨topic, partition, member, m.record.roundTrip⟩] }
      else none

theorem step_publish (owner : String → Nat → Nat) (s : KafkaState) {data : MarketData}
    (valueLength : Nat) (known : getTopicByType data.type ≠ "") :
    step owner s (.publish data valueLength) = some { s with
      topics := Function.update s.topics (getTopicByType data.type)
        ((s.topics (getTopicByType data.type)).write ⟨data, valueLength⟩) } := by
  simp only [step, if_neg known]

theorem step_fetch {owner : String → Nat → Nat} {s : KafkaState} {topic : String}
    {member partition : Nat} {m : Message} (owned : owner topic partition = member)
    (found : ((s.topics topic).log partition)[s.positions (topic, partition)]? = some m) :
    step owner s (.fetch topic member partition) = some { s with
      positions := Function.update s.positions (topic, partition)
        (s.positions (topic, partition) + 1)
      handled := s.handled ++ [⟨topic, partition, member, m.record.roundTrip⟩] } := by
  simp only [step, if_pos owned, found]

/-- A run of events; `none` once an event is not enabled. -/
def run (owner : String → Nat → Nat) (s : KafkaState) : List KafkaEvent → Option KafkaState
  | [] => some s
  | event :: events => (step owner s event).bind fun s => run owner s events

/-! ## Two records of one symbol -/

/-- From fresh counters, the writer sends a message to partition 0 and, if that message had
any bytes, the next one to partition 1: the key takes no part in either choice. -/
theorem leastBytesIndex_after_first (rest first : Nat) (written : 0 < first) :
    leastBytesIndex (first :: 0 :: List.replicate rest 0) = 1 := by
  simp only [leastBytesIndex, leastBytesScan, if_pos written]
  exact leastBytesScan_of_le fun bytes _ => Nat.zero_le bytes

/-- Two messages written to a fresh topic of at least two partitions, the first with some
bytes, make up the logs of partitions 0 and 1. -/
theorem Topic.write_pair_logs {partitions : Nat} (positive : 0 < partitions) (m1 m2 : Message)
    (split : 2 ≤ partitions) (written : 0 < m1.size) :
    (((Topic.empty partitions positive).write m1).write m2).log 0 = [m1] ∧
      (((Topic.empty partitions positive).write m1).write m2).log 1 = [m2] := by
  obtain ⟨rest, rfl⟩ : ∃ rest, partitions = rest + 2 := ⟨partitions - 2, by omega⟩
  have first : (Topic.empty (rest + 2) positive).balance = 0 := leastBytesIndex_replicate_zero _
  have second : ((Topic.empty (rest + 2) positive).write m1).balance = 1 := by
    rw [Topic.balance, Topic.write_counters, first]
    simpa [Topic.empty, List.replicate_succ] using leastBytesIndex_after_first rest _ written
  rw [Topic.log_write, Topic.log_write, Topic.log_write, Topic.log_write, first, second]
  simp [Topic.log, Topic.empty, List.replicate_succ]

/-- Two records of one kind, published back to back into a topic with at least two
partitions, land on partitions 0 and 1; whichever members own those partitions, the reader of
partition 1 can hand the later record to the handler before the reader of partition 0 hands
over the earlier one. -/
theorem publish_pair_reordered (partitions : String → Nat) (positive : ∀ topic, 0 < partitions topic)
    (owner : String → Nat → Nat) (r1 r2 : MarketData) (n1 n2 : Nat)
    (sameKind : r2.type = r1.type) (known : getTopicByType r1.type ≠ "")
    (split : 2 ≤ partitions (getTopicByType r1.type)) (written : 0 < n1) :
    ∃ s, run owner (KafkaState.init partitions positive)
        [.publish r1 n1, .publish r2 n2,
          .fetch (getTopicByType r1.type) (owner (getTopicByType r1.type) 1) 1,
          .fetch (getTopicByType r1.type) (owner (getTopicByType r1.type) 0) 0] = some s ∧
      s.handled.map (·.data) = [r2.roundTrip, r1.roundTrip] := by
  have logs := Topic.write_pair_logs (positive _) ⟨r1, n1⟩ ⟨r2, n2⟩ split
    (by simp only [Message.size]; omega)
  simp only [run, step_publish _ _ _ known, step_publish _ _ _ (sameKind ▸ known), sameKind,
    Option.some_bind, Function.update_same]
  rw [step_fetch (m := ⟨r2, n2⟩) rfl (by simp [KafkaState.init, logs.2]), Option.some_bind,
    step_fetch (m := ⟨r1, n1⟩) rfl (by simp [KafkaState.init, logs.1]), Option.some_bind]
  exact ⟨_, rfl, rfl⟩

/-- A BTCUSDT trade from Binance, as the adapter hands it to `Collector.handleMarketData`. -/
def btcTrade (tradeId : String) (price : ℚ) (timestamp : Int) : MarketData :=
  ⟨exchangeBinance, "BTCUSDT", dataTypeTrade, sourceExternal, timestamp,
    .trade ⟨"BTCUSDT", tradeId, price, 1 / 10, sideBuy, timestamp⟩⟩

theorem same_symbol_trades_handled_out_of_order :
    ∃ s, run (fun _ _ => 0) (KafkaState.init (fun _ => 2) fun _ => Nat.two_pos)
        [.publish (btcTrade "1" 45000 1700000000000) 200,
          .publish (btcTrade "2" 45001 1700000000001) 200,
          .fetch topicMarketTrade 0 1, .fetch topicMarketTrade 0 0] = some s ∧
      s.handled.map (·.data) =
        [(btcTrade "2" 45001 1700000000001).roundTrip,
          (btcTrade "1" 45000 1700000000000).roundTrip] :=
  publish_pair_reordered _ _ _ _ _ 200 200 rfl (by decide) (by decide) (by decide)

/-! ## Each partition is handled in offset order -/

/-- The records handed to the handler from one partition, in handling order. -/
def delivered (s : KafkaState) (topic : String) (partition : Nat) : List MarketData :=
  (s.handled.filter fun d => decide (d.topic = topic) && decide (d.partition = partition)).map
    (·.data)

/-- The group's position in each partition is within its log, and what was handed to the
handler from a partition is the decoding of that log up to the position, in offset order. -/
structure InOrder (s : KafkaState) : Prop where
  bounded : ∀ topic partition, s.positions (topic, partition) ≤ ((s.topics topic).log partition).length
  offsetOrder : ∀ topic partition, delivered s topic partition =
    (((s.topics topic).log partition).take (s.positions (topic, partition))).map
      (·.record.roundTrip)

theorem inOrder_init (partitions : String → Nat) (positive : ∀ topic, 0 < partitions topic) :
    InOrder (KafkaState.init partitions positive) :=
  ⟨fun _ _ => Nat.zero_le _, fun _ _ => rfl⟩

/-- A write only appends to a log, so it keeps every position in range and every delivered
prefix. -/
theorem InOrder.write {s : KafkaState} (ordered : InOrder s) (topic : String) (m : Message) :
    InOrder { s with topics := Function.update s.topics topic ((s.topics topic).write m) } := by
  have grown : ∀ t p, ∃ extra, ((Function.update s.topics topic ((s.topics topic).write m)) t).log p =
      (s.topics t).log p ++ extra := by
    intro t p
    by_cases same : t = topic
    · subst t
      rw [Function.update_same, Topic.log_write]
      split
      · exact ⟨[m], rfl⟩
      · exact ⟨[], (List.append_nil _).symm⟩
    · exact ⟨[], by rw [Function.update_noteq same, List.append_nil]⟩
  constructor
  · intro t p
    obtain ⟨extra, log⟩ := grown t p
    simpa [log] using Nat.le_add_right_of_le (ordered.bounded t p)
  · intro t p
    obtain ⟨extra, log⟩ := grown t p
    simp only [delivered] at ordered ⊢
    rw [log, List.take_append_of_le_length (ordered.bounded t p), ← delivered, ordered.offsetOrder]

/-- A fetch hands the message at the position to the handler and moves the position past it. -/
theorem InOrder.fetch {s : KafkaState} (ordered : InOrder s) {topic : String} {partition : Nat}
    (member : Nat) {m : Message}
    (found : ((s.topics topic).log partition)[s.positions (topic, partition)]? = some m) :
    InOrder { s with
      positions := Function.update s.positions (topic, partition)
        (s.positions (topic, partition) + 1)
      handled := s.handled ++ [⟨topic, partition, member, m.record.roundTrip⟩] } := by
  have inRange := (List.getElem?_eq_some_iff.mp found).1
  constructor
  · intro t p
    by_cases same : (t, p) = (topic, partition)
    · cases same; simpa using inRange
    · simpa [Function.update_noteq same] using ordered.bounded t p
  · intro t p
    have earlier := ordered.offsetOrder t p
    simp only [delivered] at earlier ⊢
    by_cases same : (t, p) = (topic, partition)
    · cases same
      simp [List.filter_append, earlier, List.take_succ, found]
    · have other : ¬(topic = t ∧ partition = p) := fun h => same (by rw [h.1, h.2])
      simp [List.filter_append, earlier, Function.update_noteq same, other]

theorem InOrder.step {owner : String → Nat → Nat} {s s' : KafkaState} {event : KafkaEvent}
    (ordered : InOrder s) (stepped : step owner s event = some s') : InOrder s' := by
  cases event with
  | publish data valueLength =>
      simp only [Kafka.step] at stepped
      split at stepped
      · cases stepped; exact ordered
      · cases stepped; exact ordered.write _ _
  | fetch topic member partition =>
      simp only [Kafka.step] at stepped
      split at stepped
      · split at stepped
        · cases stepped
        · rename_i m found
          cases stepped; exact ordered.fetch member found
      · cases stepped

theorem InOrder.run {owner : String → Nat → Nat} {s s' : KafkaState} {events : List KafkaEvent}
    (ordered : InOrder s) (ran : run owner s events = some s') : InOrder s' := by
  induction events generalizing s with
  | nil => cases ran; exact ordered
  | cons event events ih =>
      obtain ⟨next, stepped, rest⟩ := Option.bind_eq_some.mp ran
      exact ih (ordered.step stepped) rest

/-- Whatever the interleaving of publishes and fetches, every member hands each partition's
records to the handler in offset order: from every partition, the handled records are a prefix
of its log. -/
theorem run_delivered_offset_order {owner : String → Nat → Nat} {partitions : String → Nat}
    {positive : ∀ topic, 0 < partitions topic} {events : List KafkaEvent} {s : KafkaState}
    (ran : run owner (KafkaState.init partitions positive) events = some s)
    (topic : String) (partition : Nat) :
    delivered s topic partition <+:
      ((s.topics topic).log partition).map (·.record.roundTrip) := by
  rw [((inOrder_init partitions positive).run ran).offsetOrder]
  exact ⟨_, by rw [← List.map_append, List.take_append_drop]⟩

theorem run_delivered_offset_order_sample :
    ∃ s, run (fun _ _ => 0) (KafkaState.init (fun _ => 2) fun _ => Nat.two_pos)
        [.publish (btcTrade "1" 45000 1700000000000) 200,
          .publish (btcTrade "2" 45001 1700000000001) 200,
          .fetch (Processor.getTopicByType dataTypeTrade) 0 1,
          .fetch (Processor.getTopicByType dataTypeTrade) 0 0] = some s ∧
      delivered s (Processor.getTopicByType dataTypeTrade) 0 <+:
        ((s.topics (Processor.getTopicByType dataTypeTrade)).log 0).map (·.record.roundTrip) := by
  obtain ⟨s, ran, -⟩ := publish_pair_reordered (fun _ => 2) (fun _ => Nat.two_pos) (fun _ _ => 0)
    (btcTrade "1" 45000 1700000000000) (btcTrade "2" 45001 1700000000001) 200 200 rfl (by decide)
    (by decide) (by decide)
  exact ⟨s, ran, run_delivered_offset_order ran _ 0⟩

end Kafka

end MarketSystem
