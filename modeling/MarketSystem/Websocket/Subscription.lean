import MarketSystem.Models
import Mathlib.Data.List.AList
import Mathlib.Data.Finset.Card
import Mathlib.Data.Finset.Image

/-!
# The subscription index

`SubscriptionManager` keeps two Go maps in step, channel → set of clients and client → set
of channels, and deletes an inner set as soon as it becomes empty.  Every method runs under
one mutex, so a run of the manager is a sequence of whole method calls.  This file proves
that every such sequence keeps the two indices mirror images of each other and that the
manager refines a plain relation between clients and channels.
-/

namespace MarketSystem

/-- A client session, identified by its `*Client` pointer. -/
abbrev ClientId := Nat

/-- Go's `map[α]map[β]bool` where every stored value is `true`: each inner map is the list of
its keys, and Go's unspecified iteration order is the order of that list. -/
abbrev SetMap (α β : Type) := AList (fun _ : α => List β)

namespace SetMap

variable {α β : Type} [DecidableEq α]

/-- The keys of the inner map at `key`, empty when there is none. -/
def members (m : SetMap α β) (key : α) : List β :=
  (m.lookup key).getD []

@[simp]
theorem members_empty (key : α) : (∅ : SetMap α β).members key = [] :=
  rfl

@[simp]
theorem members_insert (m : SetMap α β) (key key' : α) (value : List β) :
    SetMap.members (m.insert key value) key' =
      if key' = key then value else m.members key' := by
  by_cases same : key' = key
  · subst same; simp [members]
  · simp [members, same]

@[simp]
theorem members_erase (m : SetMap α β) (key key' : α) :
    SetMap.members (m.erase key) key' = if key' = key then [] else m.members key' := by
  by_cases same : key' = key
  · subst same; simp [members]
  · simp [members, same]

/-- The representation invariant of a set-map: every inner map that is present is non-empty
and lists each key once. -/
structure WellFormed (m : SetMap α β) : Prop where
  nonempty : ∀ key members, m.lookup key = some members → members ≠ []
  nodup : ∀ key, (m.members key).Nodup

theorem wellFormed_empty : (∅ : SetMap α β).WellFormed :=
  ⟨by simp, by simp⟩

namespace WellFormed

variable {m : SetMap α β}

theorem insert (wf : m.WellFormed) (key : α) {value : List β} (nonempty : value ≠ [])
    (distinct : value.Nodup) : SetMap.WellFormed (m.insert key value) := by
  refine ⟨fun key' members found => ?_, fun key' => ?_⟩
  · by_cases same : key' = key
    · subst same
      simp only [AList.lookup_insert, Option.some.injEq] at found
      exact found ▸ nonempty
    · rw [AList.lookup_insert_ne same] at found
      exact wf.nonempty key' members found
  · rw [members_insert]
    split
    · exact distinct
    · exact wf.nodup key'

theorem erase (wf : m.WellFormed) (key : α) : SetMap.WellFormed (m.erase key) := by
  refine ⟨fun key' members found => ?_, fun key' => ?_⟩
  · by_cases same : key' = key
    · subst same; simp at found
    · rw [AList.lookup_erase_ne same] at found
      exact wf.nonempty key' members found
  · rw [members_erase]
    split
    · exact List.nodup_nil
    · exact wf.nodup key'

/-- In a well-formed set-map a key is present exactly when its inner map has a member. -/
theorem mem_iff_exists_member (wf : m.WellFormed) (key : α) :
    key ∈ m ↔ ∃ member, member ∈ m.members key := by
  rw [← AList.lookup_isSome]
  cases found : m.lookup key with
  | none => simp [members, found]
  | some current =>
      simp only [Option.isSome_some, true_iff, members, found, Option.getD_some]
      exact List.exists_mem_of_ne_nil current (wf.nonempty key current found)

end WellFormed

variable [DecidableEq β]

/-- Create the inner map at `key` if it is missing, then store `member` in it. -/
def insertMember (m : SetMap α β) (key : α) (member : β) : SetMap α β :=
  m.insert key ((m.members key).insert member)

/-- `delete(inner, member)` on the inner map at `key`, then `delete(m, key)` once the inner
map is empty; nothing happens when there is no inner map. -/
def eraseMember (m : SetMap α β) (key : α) (member : β) : SetMap α β :=
  match m.lookup key with
  | none => m
  | some members =>
      if members.erase member = [] then m.erase key else m.insert key (members.erase member)

theorem members_insertMember (m : SetMap α β) (key key' : α) (member : β) :
    (m.insertMember key member).members key' =
      if key' = key then (m.members key).insert member else m.members key' :=
  members_insert m key key' _

theorem members_eraseMember (m : SetMap α β) (key key' : α) (member : β) :
    (m.eraseMember key member).members key' =
      if key' = key then (m.members key).erase member else m.members key' := by
  unfold eraseMember
  cases found : m.lookup key with
  | none =>
      by_cases same : key' = key
      · subst same; simp [members, found]
      · simp [same]
  | some current =>
      have current_eq : m.members key = current := by simp [members, found]
      dsimp only
      split
      · next empty =>
          rw [members_erase]
          by_cases same : key' = key <;> simp [same, current_eq, empty]
      · rw [members_insert]
        by_cases same : key' = key <;> simp [same, current_eq]

namespace WellFormed

variable {m : SetMap α β}

theorem insertMember (wf : m.WellFormed) (key : α) (member : β) :
    (m.insertMember key member).WellFormed :=
  wf.insert key (List.ne_nil_of_mem (List.mem_insert_self member _))
    ((wf.nodup key).insert)

theorem eraseMember (wf : m.WellFormed) (key : α) (member : β) :
    (m.eraseMember key member).WellFormed := by
  unfold SetMap.eraseMember
  cases found : m.lookup key with
  | none => exact wf
  | some current =>
      have distinct : current.Nodup := by
        simpa [members, found] using wf.nodup key
      dsimp only
      split
      · exact wf.erase key
      · next nonempty => exact wf.insert key nonempty (distinct.erase member)

theorem foldl_eraseMember (wf : m.WellFormed) (member : β) (keys : List α) :
    (keys.foldl (fun m key => m.eraseMember key member) m).WellFormed := by
  induction keys generalizing m with
  | nil => exact wf
  | cons key keys ih => exact ih (wf.eraseMember key member)

end WellFormed

theorem members_foldl_eraseMember (m : SetMap α β) (member : β) {keys : List α}
    (distinct : keys.Nodup) (key' : α) :
    (keys.foldl (fun m key => m.eraseMember key member) m).members key' =
      if key' ∈ keys then (m.members key').erase member else m.members key' := by
  induction keys generalizing m with
  | nil => simp
  | cons key keys ih =>
      rw [List.nodup_cons] at distinct
      rw [List.foldl_cons, ih _ distinct.2, members_eraseMember]
      by_cases same : key' = key
      · subst same; simp [distinct.1]
      · simp [same]

end SetMap

/-- `SubscriptionManager`: channel → subscribed clients, and client → subscribed channels. -/
structure SubscriptionManager where
  channelSubscribers : SetMap String ClientId
  clientSubscriptions : SetMap ClientId String

/-- `NewSubscriptionManager`. -/
def newSubscriptionManager : SubscriptionManager :=
  ⟨∅, ∅⟩

namespace SubscriptionManager

/-- `Subscribe`. -/
def subscribe (sm : SubscriptionManager) (client : ClientId) (channel : String) :
    SubscriptionManager where
  channelSubscribers := sm.channelSubscribers.insertMember channel client
  clientSubscriptions := sm.clientSubscriptions.insertMember client channel

/-- `Unsubscribe`. -/
def unsubscribe (sm : SubscriptionManager) (client : ClientId) (channel : String) :
    SubscriptionManager where
  channelSubscribers := sm.channelSubscribers.eraseMember channel client
  clientSubscriptions := sm.clientSubscriptions.eraseMember client channel

/-- `UnsubscribeAll`: remove `client` from the subscribers of every channel that
`clientSubscriptions` lists for it, then delete its own entry. -/
def unsubscribeAll (sm : SubscriptionManager) (client : ClientId) : SubscriptionManager :=
  match sm.clientSubscriptions.lookup client with
  | none => sm
  | some channels =>
      { channelSubscribers :=
          channels.foldl (fun m channel => m.eraseMember channel client) sm.channelSubscribers
        clientSubscriptions := sm.clientSubscriptions.erase client }

/-- `GetSubscribers`, as the keys of the returned copy. -/
def getSubscribers (sm : SubscriptionManager) (channel : String) : List ClientId :=
  sm.channelSubscribers.members channel

/-- `GetClientSubscriptions`. -/
def getClientSubscriptions (sm : SubscriptionManager) (client : ClientId) : List String :=
  sm.clientSubscriptions.members client

/-- `GetChannelCount`: `len(channelSubscribers)`. -/
def getChannelCount (sm : SubscriptionManager) : Nat :=
  sm.channelSubscribers.entries.length

/-- `GetSubscriberCount`. -/
def getSubscriberCount (sm : SubscriptionManager) (channel : String) : Nat :=
  match sm.channelSubscribers.lookup channel with
  | none => 0
  | some subscribers => subscribers.length

/-- `IsSubscribed`: `channels[channel]` on the client's inner map, `false` when that map is
missing. -/
def isSubscribed (sm : SubscriptionManager) (client : ClientId) (channel : String) : Bool :=
  match sm.clientSubscriptions.lookup client with
  | none => false
  | some channels => channels.contains channel

/-- `UnsubscribeAll` folds over the channels listed for the client; when none are listed the
fold and the `delete` do nothing. -/
theorem unsubscribeAll_eq (sm : SubscriptionManager) (client : ClientId) :
    sm.unsubscribeAll client =
      { channelSubscribers := (sm.clientSubscriptions.members client).foldl
          (fun m channel => m.eraseMember channel client) sm.channelSubscribers
        clientSubscriptions := sm.clientSubscriptions.erase client } := by
  unfold unsubscribeAll SetMap.members
  cases found : sm.clientSubscriptions.lookup client with
  | none =>
      have absent : client ∉ sm.clientSubscriptions.keys :=
        AList.mem_keys.not.mp (AList.lookup_eq_none.mp found)
      have unchanged : sm.clientSubscriptions.erase client = sm.clientSubscriptions :=
        AList.ext (List.kerase_of_not_mem_keys absent)
      simp [unchanged]
  | some channels => rfl

/-- The two conditions of the index invariant: the indices mirror each other, and no inner
map that is present is empty. -/
structure Consistent (sm : SubscriptionManager) : Prop where
  mirror : ∀ client channel,
    client ∈ sm.getSubscribers channel ↔ channel ∈ sm.getClientSubscriptions client
  channelsNonempty : ∀ channel subscribers,
    sm.channelSubscribers.lookup channel = some subscribers → subscribers ≠ []
  clientsNonempty : ∀ client channels,
    sm.clientSubscriptions.lookup client = some channels → channels ≠ []

/-- The manager refines the relation `R`: both indices are well-formed set-maps and each of
them lists exactly the pairs of `R`. -/
structure Refines (sm : SubscriptionManager) (R : Finset (ClientId × String)) : Prop where
  channelsWellFormed : sm.channelSubscribers.WellFormed
  clientsWellFormed : sm.clientSubscriptions.WellFormed
  subscriber_iff : ∀ client channel,
    client ∈ sm.channelSubscribers.members channel ↔ (client, channel) ∈ R
  subscription_iff : ∀ client channel,
    channel ∈ sm.clientSubscriptions.members client ↔ (client, channel) ∈ R

theorem refines_new : Refines newSubscriptionManager ∅ :=
  ⟨SetMap.wellFormed_empty, SetMap.wellFormed_empty, by simp [newSubscriptionManager],
    by simp [newSubscriptionManager]⟩

namespace Refines

variable {sm : SubscriptionManager} {R : Finset (ClientId × String)}

theorem consistent (refines : Refines sm R) : sm.Consistent :=
  ⟨fun client channel =>
      (refines.subscriber_iff client channel).trans (refines.subscription_iff client channel).symm,
    refines.channelsWellFormed.nonempty, refines.clientsWellFormed.nonempty⟩

theorem subscribe (refines : Refines sm R) (client : ClientId) (channel : String) :
    Refines (sm.subscribe client channel) (insert (client, channel) R) := by
  refine ⟨refines.channelsWellFormed.insertMember channel client,
    refines.clientsWellFormed.insertMember client channel,
    fun client' channel' => ?_, fun client' channel' => ?_⟩
  · by_cases same : channel' = channel
    · subst same
      simp [SubscriptionManager.subscribe, SetMap.members_insertMember, refines.subscriber_iff]
    · simp [SubscriptionManager.subscribe, SetMap.members_insertMember, same,
        refines.subscriber_iff]
  · by_cases same : client' = client
    · subst same
      simp [SubscriptionManager.subscribe, SetMap.members_insertMember, refines.subscription_iff]
    · simp [SubscriptionManager.subscribe, SetMap.members_insertMember, same,
        refines.subscription_iff]

theorem unsubscribe (refines : Refines sm R) (client : ClientId) (channel : String) :
    Refines (sm.unsubscribe client channel) (R.erase (client, channel)) := by
  refine ⟨refines.channelsWellFormed.eraseMember channel client,
    refines.clientsWellFormed.eraseMember client channel,
    fun client' channel' => ?_, fun client' channel' => ?_⟩
  · by_cases same : channel' = channel
    · subst same
      simp [SubscriptionManager.unsubscribe, SetMap.members_eraseMember,
        (refines.channelsWellFormed.nodup _).mem_erase_iff, refines.subscriber_iff]
    · simp [SubscriptionManager.unsubscribe, SetMap.members_eraseMember, same,
        refines.subscriber_iff]
  · by_cases same : client' = client
    · subst same
      simp [SubscriptionManager.unsubscribe, SetMap.members_eraseMember,
        (refines.clientsWellFormed.nodup _).mem_erase_iff, refines.subscription_iff]
    · simp [SubscriptionManager.unsubscribe, SetMap.members_eraseMember, same,
        refines.subscription_iff]

/-- `UnsubscribeAll` erases every pair of the client.  It only visits the channels that
`clientSubscriptions` lists, which suffices because the two indices agree. -/
theorem unsubscribeAll (refines : Refines sm R) (client : ClientId) :
    Refines (sm.unsubscribeAll client) (R.filter (·.1 ≠ client)) := by
  have distinct := refines.clientsWellFormed.nodup client
  rw [unsubscribeAll_eq]
  refine ⟨refines.channelsWellFormed.foldl_eraseMember client _,
    refines.clientsWellFormed.erase client, fun client' channel' => ?_, fun client' channel' => ?_⟩
  · simp only [SetMap.members_foldl_eraseMember _ _ distinct, Finset.mem_filter]
    split
    · rw [(refines.channelsWellFormed.nodup _).mem_erase_iff, refines.subscriber_iff, and_comm]
    · next unlisted =>
        rw [refines.subscription_iff] at unlisted
        rw [refines.subscriber_iff]
        exact ⟨fun mem => ⟨mem, fun same => unlisted (same ▸ mem)⟩, And.left⟩
  · by_cases same : client' = client
    · simp [same]
    · simp [same, refines.subscription_iff]

theorem isSubscribed_iff (refines : Refines sm R) (client : ClientId) (channel : String) :
    sm.isSubscribed client channel = true ↔ (client, channel) ∈ R := by
  rw [← refines.subscription_iff]
  unfold isSubscribed SetMap.members
  cases sm.clientSubscriptions.lookup client <;> simp

theorem getSubscriberCount_eq (refines : Refines sm R) (channel : String) :
    sm.getSubscriberCount channel = (R.filter (·.2 = channel)).card := by
  have count : sm.getSubscriberCount channel = (sm.channelSubscribers.members channel).length := by
    unfold getSubscriberCount SetMap.members
    cases sm.channelSubscribers.lookup channel <;> rfl
  have pairs : R.filter (·.2 = channel) =
      ((sm.channelSubscribers.members channel).map (·, channel)).toFinset := by
    ext ⟨client, channel'⟩
    simp only [Finset.mem_filter, List.mem_toFinset, List.mem_map, Prod.mk.injEq]
    constructor
    · rintro ⟨mem, rfl⟩
      exact ⟨client, (refines.subscriber_iff _ _).mpr mem, rfl, rfl⟩
    · rintro ⟨client', mem, rfl, rfl⟩
      exact ⟨(refines.subscriber_iff _ _).mp mem, rfl⟩
  have injective : Function.Injective fun client : ClientId => (client, channel) :=
    fun _ _ same => (Prod.mk.inj same).1
  rw [count, pairs, List.toFinset_card_of_nodup
    ((refines.channelsWellFormed.nodup channel).map injective), List.length_map]

theorem getChannelCount_eq (refines : Refines sm R) :
    sm.getChannelCount = (R.image Prod.snd).card := by
  have keys : sm.channelSubscribers.keys.toFinset = R.image Prod.snd := by
    ext channel
    simp only [List.mem_toFinset, ← AList.mem_keys,
      refines.channelsWellFormed.mem_iff_exists_member, refines.subscriber_iff, Finset.mem_image]
    constructor
    · rintro ⟨client, mem⟩
      exact ⟨(client, channel), mem, rfl⟩
    · rintro ⟨⟨client, channel'⟩, mem, rfl⟩
      exact ⟨client, mem⟩
  rw [← keys, List.toFinset_card_of_nodup sm.channelSubscribers.keys_nodup]
  simp [getChannelCount, AList.keys, List.keys]

end Refines

end SubscriptionManager

/-- One call of a mutating method of the manager. -/
inductive SubscriptionOp where
  | subscribe (client : ClientId) (channel : String)
  | unsubscribe (client : ClientId) (channel : String)
  | unsubscribeAll (client : ClientId)

namespace SubscriptionOp

/-- The call on the manager. -/
def apply : SubscriptionOp → SubscriptionManager → SubscriptionManager
  | .subscribe client channel, sm => sm.subscribe client channel
  | .unsubscribe client channel, sm => sm.unsubscribe client channel
  | .unsubscribeAll client, sm => sm.unsubscribeAll client

/-- The call on the abstract relation: insert the pair, erase it, or erase every pair of the
client. -/
def relate : SubscriptionOp → Finset (ClientId × String) → Finset (ClientId × String)
  | .subscribe client channel, R => insert (client, channel) R
  | .unsubscribe client channel, R => R.erase (client, channel)
  | .unsubscribeAll client, R => R.filter (·.1 ≠ client)

theorem apply_refines {sm : SubscriptionManager} {R : Finset (ClientId × String)}
    (op : SubscriptionOp) (refines : sm.Refines R) : (op.apply sm).Refines (op.relate R) := by
  cases op with
  | subscribe client channel => exact refines.subscribe client channel
  | unsubscribe client channel => exact refines.unsubscribe client channel
  | unsubscribeAll client => exact refines.unsubscribeAll client

end SubscriptionOp

/-- The manager after a sequence of calls from `NewSubscriptionManager`. -/
def runSubscriptionOps (ops : List SubscriptionOp) : SubscriptionManager :=
  ops.foldl (fun sm op => op.apply sm) newSubscriptionManager

/-- The abstract relation after the same calls, from the empty relation. -/
def subscriptionRelation (ops : List SubscriptionOp) : Finset (ClientId × String) :=
  ops.foldl (fun R op => op.relate R) ∅

theorem refines_foldl {sm : SubscriptionManager} {R : Finset (ClientId × String)}
    (ops : List SubscriptionOp) (refines : sm.Refines R) :
    (ops.foldl (fun sm op => op.apply sm) sm).Refines (ops.foldl (fun R op => op.relate R) R) := by
  induction ops generalizing sm R with
  | nil => exact refines
  | cons op ops ih => exact ih (op.apply_refines refines)

theorem runSubscriptionOps_refines (ops : List SubscriptionOp) :
    (runSubscriptionOps ops).Refines (subscriptionRelation ops) :=
  refines_foldl ops SubscriptionManager.refines_new

/-- Every sequence of `Subscribe`, `Unsubscribe` and `UnsubscribeAll` calls from
`NewSubscriptionManager` leaves the indices consistent, and every query answers from the
relation that the same calls build on pairs. -/
theorem runSubscriptionOps_consistent_refines (ops : List SubscriptionOp) :
    (runSubscriptionOps ops).Consistent ∧
      (∀ client channel, client ∈ (runSubscriptionOps ops).getSubscribers channel ↔
        (client, channel) ∈ subscriptionRelation ops) ∧
      (∀ client, ((runSubscriptionOps ops).getClientSubscriptions client).Nodup ∧
        ∀ channel, channel ∈ (runSubscriptionOps ops).getClientSubscriptions client ↔
          (client, channel) ∈ subscriptionRelation ops) ∧
      (∀ client channel, (runSubscriptionOps ops).isSubscribed client channel = true ↔
        (client, channel) ∈ subscriptionRelation ops) ∧
      (∀ channel, (runSubscriptionOps ops).getSubscriberCount channel =
        ((subscriptionRelation ops).filter (·.2 = channel)).card) ∧
      (runSubscriptionOps ops).getChannelCount =
        ((subscriptionRelation ops).image Prod.snd).card := by
  have refines := runSubscriptionOps_refines ops
  exact ⟨refines.consistent, refines.subscriber_iff,
    fun client => ⟨refines.clientsWellFormed.nodup client, refines.subscription_iff client⟩,
    refines.isSubscribed_iff, refines.getSubscriberCount_eq, refines.getChannelCount_eq⟩

end MarketSystem
