import MeshPresence.BroadcastChannels
import MeshPresence.RegistryJournal

/-!
# The event channel of a registry

An operation of a registry changes the map and sends its events one after the other, all of it
under the write lock: until the last event is sent no other operation runs and nobody lists the
agents, while subscribers come and receive at any time. The channel is any broadcast channel, and
it gets an event only when somebody listens. What a subscriber has not received yet is the rest of
the published events from some place on, and it receives them in order unless more of them than the
capacity are unread.
-/

namespace MeshPresence.EventChannel

open BroadcastChannels ChangeJournal AgentTypes AgentRegistry RegistryJournal

/-- A registry with its channel. -/
structure EventBus (γ : Type) where
  /-- The registry; its log has the events of every operation that started. -/
  registry : Registry
  /-- The channel of the registry. -/
  channel : γ
  /-- How many events of the last operation are still to be sent; the write lock is held until
  none is. -/
  unsent : ℕ
  /-- These events are in the log. -/
  logged : unsent ≤ registry.events.length
  deriving DecidableEq

variable {γ ρ : Type} {capacity : ℕ} (broadcast : Broadcast γ ρ AgentEvent capacity)

/-- An empty registry with an empty channel. -/
def EventBus.new (ttl : Duration) : EventBus γ where
  registry := Registry.new ttl
  channel := broadcast.new
  unsent := 0
  logged := Nat.zero_le _

/-- Start an operation when the lock is free. -/
def EventBus.start (bus : EventBus γ) (op : RegistryOp) : Option (EventBus γ) :=
  let registry := RegistryOp.run bus.registry op
  if bus.unsent=0 then
    some { registry, channel := bus.channel
           unsent := registry.events.length-bus.registry.events.length
           logged := Nat.sub_le _ _ }
  else none

/-- Send the next event of the running operation; without receivers it is lost. -/
def EventBus.send (bus : EventBus γ) (listening : Bool) : Option (EventBus γ) :=
  if bus.unsent=0 then none
  else
    bus.registry.events[bus.registry.events.length-bus.unsent]?.map fun event =>
      { registry := bus.registry
        channel := if listening then broadcast.send bus.channel event else bus.channel
        unsent := bus.unsent-1
        logged := (Nat.sub_le _ _).trans bus.logged }

/-- The events that were sent so far. -/
def EventBus.published (bus : EventBus γ) : List AgentEvent :=
  bus.registry.events.take (bus.registry.events.length-bus.unsent)

variable {broadcast} {bus bus' : EventBus γ} {next : ρ} {cursor : ℕ}

/-- The number of published events. -/
theorem length_published (bus : EventBus γ) :
    bus.published.length=bus.registry.events.length-bus.unsent := by
  rw [EventBus.published,List.length_take,Nat.min_eq_left (Nat.sub_le _ _)]

/-- With a free lock everything is published. -/
theorem published_of_free (h : bus.unsent=0) : bus.published=bus.registry.events := by
  rw [EventBus.published,h,Nat.sub_zero,List.take_length]

/-- An operation starts with a free lock and changes the registry by a transition; nothing is
published yet. -/
theorem start_cases {op : RegistryOp} (hk : KeyedById bus.registry.inner)
    (h : bus.start op=some bus') : bus.unsent=0 ∧ bus'.channel=bus.channel ∧
    bus'.registry=RegistryOp.run bus.registry op ∧ bus'.published=bus.published := by
  dsimp only [EventBus.start] at h
  split at h
  · next hfree =>
    cases h
    refine ⟨hfree,rfl,rfl,?_⟩
    obtain ⟨sent,ht⟩ := run_transition hk op
    rw [published_of_free hfree,EventBus.published]
    dsimp only
    rw [ht.events,List.length_append,Nat.add_sub_cancel_left,Nat.add_sub_cancel,List.take_left]
  · cases h

/-- Sending publishes one more event of the log. -/
theorem send_cases {listening : Bool} (h : bus.send broadcast listening=some bus') :
    bus'.registry=bus.registry ∧ ∃ event, bus'.published=bus.published ++ [event] ∧
      bus'.channel=if listening then broadcast.send bus.channel event else bus.channel := by
  unfold EventBus.send at h
  split at h
  · cases h
  · next hbusy =>
    obtain ⟨event,hevent,rfl⟩ := Option.map_eq_some_iff.mp h
    refine ⟨rfl,event,?_,rfl⟩
    obtain ⟨hlt,hget⟩ := List.getElem?_eq_some_iff.mp hevent
    have hlogged := bus.logged
    rw [EventBus.published,EventBus.published]
    dsimp only
    rw [show bus.registry.events.length-(bus.unsent-1)=
      bus.registry.events.length-bus.unsent+1 by omega,List.take_add_one,hevent]
    rfl

/-- Publishing more leaves the events between published places alone. -/
theorem take_drop_append {published : List AgentEvent} {first count : ℕ}
    (h : first+count ≤ published.length) (more : List AgentEvent) :
    ((published ++ more).drop first).take count=(published.drop first).take count := by
  rw [List.drop_append_of_le_length (by omega),List.take_append_of_le_length]
  rw [List.length_drop]
  omega

/-- A receiver at a position of the channel has not received the published events from a place
on. -/
structure Unread (broadcast : Broadcast γ ρ AgentEvent capacity) (bus : EventBus γ) (next : ρ)
    (cursor : ℕ) : Prop where
  /-- The place is among the published events. -/
  within : cursor ≤ bus.published.length
  /-- The published events from there on are unread. -/
  backlog : broadcast.Backlog bus.channel next (bus.published.drop cursor)

/-- A new subscriber has not received what is sent from now on. -/
theorem Unread.subscribe (broadcast : Broadcast γ ρ AgentEvent capacity) (bus : EventBus γ) :
    Unread broadcast bus (broadcast.subscribe bus.channel) bus.published.length := by
  refine ⟨le_refl _,?_⟩
  rw [List.drop_length]
  exact broadcast.backlog_subscribe bus.channel

/-- Starting an operation publishes nothing. -/
theorem Unread.start (h : Unread broadcast bus next cursor) {op : RegistryOp}
    (hk : KeyedById bus.registry.inner) (hs : bus.start op=some bus') :
    Unread broadcast bus' next cursor := by
  obtain ⟨-,hchannel,-,hpublished⟩ := start_cases hk hs
  refine ⟨hpublished ▸ h.within,?_⟩
  rw [hchannel,hpublished]
  exact h.backlog

/-- A published event is unread for a subscriber. -/
theorem Unread.send (h : Unread broadcast bus next cursor)
    (hs : bus.send broadcast true=some bus') : Unread broadcast bus' next cursor := by
  obtain ⟨-,event,hpublished,hchannel⟩ := send_cases hs
  refine ⟨?_,?_⟩
  · rw [hpublished,List.length_append]
    exact Nat.le_add_right_of_le h.within
  · rw [hchannel,hpublished,List.drop_append_of_le_length h.within]
    exact broadcast.backlog_send h.backlog event

/-- A subscriber waits when it has received every published event, receives the next one, or has
fallen behind by more than the capacity. -/
theorem Unread.recv_cases (h : Unread broadcast bus next cursor) :
    (cursor=bus.published.length ∧ broadcast.recv bus.channel next=.empty) ∨
    (∃ event after, bus.published[cursor]?=some event ∧
      broadcast.recv bus.channel next=.value event after ∧ Unread broadcast bus after (cursor+1)) ∨
    (cursor+capacity<bus.published.length ∧
      ∃ missed oldest, broadcast.recv bus.channel next=.lagged missed oldest) := by
  have hwithin := h.within
  rcases broadcast.recv_cases h.backlog with ⟨hnil,hr⟩|⟨event,rest,after,hcons,hr,hrest⟩|
    ⟨hlost,oldest,hr,-⟩
  · have hlength := congrArg List.length hnil
    rw [List.length_drop,List.length_nil] at hlength
    exact Or.inl ⟨by omega,hr⟩
  · have hlength := congrArg List.length hcons
    rw [List.length_drop,List.length_cons] at hlength
    have hlt : cursor<bus.published.length := by omega
    rw [List.drop_eq_getElem_cons hlt,List.cons.injEq] at hcons
    refine Or.inr (Or.inl ⟨event,after,?_,hr,hlt,hcons.2 ▸ hrest⟩)
    rw [List.getElem?_eq_getElem hlt,hcons.1]
  · rw [List.length_drop] at hlost
    exact Or.inr (Or.inr ⟨by omega,_,oldest,hr⟩)

/-- A receiver that waits has received everything that was published. -/
theorem Unread.waits (h : Unread broadcast bus next cursor)
    (hr : broadcast.recv bus.channel next=.empty) : cursor=bus.published.length := by
  rcases h.recv_cases with ⟨hall,-⟩|⟨event,after,-,hvalue,-⟩|⟨-,missed,oldest,hlagged⟩
  · exact hall
  · cases hr.symm.trans hvalue
  · cases hr.symm.trans hlagged

/-- A published event is in the log at its place. -/
theorem getElem?_of_published {event : AgentEvent} (h : bus.published[cursor]?=some event) :
    bus.registry.events[cursor]?=some event := by
  obtain ⟨hlt,hget⟩ := List.getElem?_eq_some_iff.mp h
  rw [length_published] at hlt
  rw [EventBus.published,List.getElem?_take_of_lt hlt] at h
  exact h

/-- A ring with two slots. -/
def twoSlots : Broadcast (Channel AgentEvent 2) ℕ AgentEvent 2 := ring AgentEvent (by decide)

end MeshPresence.EventChannel
