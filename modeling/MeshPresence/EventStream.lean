import MeshPresence.CampRecords
import MeshPresence.GuardedRuns

/-!
# The event stream converges to the registry

The handler subscribes, later yields a listing, and then yields the events it receives.
Events between the subscription and the listing are both contained in the listing and
yielded after it. Registry operations interleave freely with these steps. A reader that
folds the yielded events over the listing agrees with the registry whenever it has
received everything that was sent.
-/

namespace MeshPresence.EventStream

open FiniteMaps ChangeJournal GuardedRuns AgentTypes AgentRegistry RegistryJournal CampRecords

/-- How far the handler is. A receiver is a position in the log of the channel. -/
inductive StreamPhase where
  /-- Subscribing is next. -/
  | subscribe
  /-- Reading and yielding the snapshot is next. -/
  | snapshot (cursor : ℕ)
  /-- Events are received and yielded. -/
  | drain (cursor : ℕ)
  deriving DecidableEq

/-- A registry with one event stream. -/
structure Stream where
  /-- The registry of the mesh. -/
  registry : Registry
  /-- Progress of the handler. -/
  phase : StreamPhase
  /-- The listing that was yielded. -/
  snapshot : Option (List AgentRecord)
  /-- The events that were yielded. -/
  events : List EventRecord
  deriving DecidableEq

/-- Steps of the registry and of the handler. -/
inductive StreamAction where
  /-- A registry operation of any other party. -/
  | registry (op : RegistryOp)
  /-- The handler subscribes. -/
  | subscribe
  /-- The stream reads the agents and yields them. -/
  | snapshot (order : AgentOrder)
  /-- The stream receives an event and yields it. -/
  | receive

/-- One step; the receiver waits when there is no further event. The channel keeps every
event until it is received. -/
def Stream.step (s : Stream) : StreamAction → Option Stream
  | .registry op => some { s with registry := RegistryOp.run s.registry op }
  | .subscribe =>
    match s.phase with
    | .subscribe => some { s with phase := .snapshot s.registry.events.length }
    | _ => none
  | .snapshot order =>
    match s.phase with
    | .snapshot cursor =>
      some { s with snapshot := some (agentRecords s.registry order), phase := .drain cursor }
    | _ => none
  | .receive =>
    match s.phase with
    | .drain cursor =>
      match s.registry.events[cursor]? with
      | some event =>
        some { s with events := s.events ++ (toEventRecord event).toList
                      phase := .drain (cursor+1) }
      | none => none
    | _ => none

/-- An empty registry before the handler runs. -/
def Stream.new (ttl : Duration) : Stream where
  registry := Registry.new ttl
  phase := .subscribe
  snapshot := none
  events := []

/-- The events since the subscription are a journal that ends at the registry. -/
structure Subscribed (r : Registry) (cursor : ℕ) : Prop where
  /-- The receiver is not ahead of the log. -/
  within : cursor ≤ r.events.length
  /-- The unread events lead from the subscription to the registry. -/
  unread : ∃ start, Journal start ((r.events.drop cursor).map eventChange) (store r.inner)

/-- What the reader holds: a listing of an earlier registry, and events that follow the
journal from the subscription through the listing to the registry. -/
structure Draining (s : Stream) (cursor : ℕ) (listed : Registry) (first rest seen : List AgentEvent) :
    Prop where
  /-- The receiver is not ahead of the log. -/
  within : cursor ≤ s.registry.events.length
  /-- The listed records are stored under their own identifiers. -/
  keyed : KeyedById listed.inner
  /-- The listing that was yielded. -/
  snapshot : ∃ order, s.snapshot=some (agentRecords listed order)
  /-- The events before the listing lead to it. -/
  before : ∃ start, Journal start (first.map eventChange) (store listed.inner)
  /-- The events after the listing lead to the registry. -/
  after : Journal (store listed.inner) (rest.map eventChange) (store s.registry.inner)
  /-- The yielded events. -/
  yielded : s.events=seen.filterMap toEventRecord
  /-- Yielded and unread events are those before and after the listing. -/
  split : seen ++ s.registry.events.drop cursor=first ++ rest

/-- The invariant of a registry with a stream. -/
structure Follows (s : Stream) : Prop where
  /-- Records are stored under their own identifiers. -/
  keyed : KeyedById s.registry.inner
  /-- No event is yielded before the snapshot. -/
  fresh : (∀ cursor, s.phase ≠ .drain cursor) → s.events=[]
  /-- Between subscription and snapshot. -/
  subscribed : ∀ cursor, s.phase=.snapshot cursor → Subscribed s.registry cursor
  /-- After the snapshot. -/
  draining : ∀ cursor, s.phase=.drain cursor → ∃ listed first rest seen,
    Draining s cursor listed first rest seen

/-- A registry operation extends the journal since the subscription. -/
theorem Subscribed.registry {r r' : Registry} {cursor : ℕ} (h : Subscribed r cursor)
    {sent : List AgentEvent} (ht : Transition r sent r') : Subscribed r' cursor := by
  obtain ⟨hwithin,hdrop⟩ := ht.unread h.within
  obtain ⟨start,hunread⟩ := h.unread
  refine ⟨hwithin,start,?_⟩
  rw [hdrop,List.map_append]
  exact hunread.trans ht.journal

/-- A registry operation extends the journal after the listing. -/
theorem Draining.registry {s : Stream} {cursor : ℕ} {listed : Registry}
    {first rest seen : List AgentEvent} (h : Draining s cursor listed first rest seen) {r : Registry}
    {sent : List AgentEvent} (ht : Transition s.registry sent r) :
    Draining { s with registry := r } cursor listed first (rest ++ sent) seen := by
  obtain ⟨hwithin,hdrop⟩ := ht.unread h.within
  refine ⟨hwithin,h.keyed,h.snapshot,h.before,?_,h.yielded,?_⟩
  · rw [List.map_append]
    exact h.after.trans ht.journal
  · rw [hdrop,←List.append_assoc,h.split,List.append_assoc]

/-- Receiving moves the next unread event to the yielded ones. -/
theorem Draining.receive {s : Stream} {cursor : ℕ} {listed : Registry}
    {first rest seen : List AgentEvent} (h : Draining s cursor listed first rest seen)
    {event : AgentEvent} (he : s.registry.events[cursor]?=some event) :
    Draining { s with events := s.events ++ (toEventRecord event).toList
                      phase := .drain (cursor+1) } (cursor+1) listed first rest
      (seen ++ [event]) := by
  obtain ⟨hlt,hget⟩ := List.getElem?_eq_some_iff.mp he
  refine ⟨hlt,h.keyed,h.snapshot,h.before,h.after,?_,?_⟩
  · rw [List.filterMap_append,h.yielded]
    cases event <;> rfl
  · rw [←h.split,List.append_assoc,List.singleton_append,←hget,←List.drop_eq_getElem_cons hlt]

/-- Every step keeps the invariant. -/
theorem Follows.step {s s' : Stream} {action : StreamAction} (h : Follows s)
    (hs : s.step action=some s') : Follows s' := by
  cases action with
  | registry op =>
    obtain ⟨sent,ht⟩ := run_transition h.keyed op
    cases hs
    refine ⟨ht.keyed,h.fresh,fun cursor hp => (h.subscribed cursor hp).registry ht,
      fun cursor hp => ?_⟩
    obtain ⟨listed,first,rest,seen,hd⟩ := h.draining cursor hp
    exact ⟨listed,first,rest ++ sent,seen,hd.registry ht⟩
  | subscribe =>
    simp only [Stream.step] at hs
    split at hs
    · next hphase =>
      cases hs
      refine ⟨h.keyed,fun _ => ?_,fun cursor hp => ?_,fun cursor hp => by cases hp⟩
      · exact h.fresh fun cursor hp => by cases hphase.symm.trans hp
      · cases hp
        refine ⟨le_refl _,store s.registry.inner,?_⟩
        rw [List.drop_length]
        exact Journal.refl _
    · cases hs
  | snapshot order =>
    simp only [Stream.step] at hs
    split at hs
    · next cursor hphase =>
      cases hs
      have hsub := h.subscribed cursor hphase
      have hnone := h.fresh fun cursor hp => by cases hphase.symm.trans hp
      refine ⟨h.keyed,fun hp => absurd rfl (hp cursor),fun _ hp => (by cases hp),fun _ hp => ?_⟩
      cases hp
      exact ⟨s.registry,s.registry.events.drop cursor,[],[],hsub.within,h.keyed,⟨order,rfl⟩,
        hsub.unread,Journal.refl _,hnone,(List.append_nil _).symm⟩
    · cases hs
  | receive =>
    simp only [Stream.step] at hs
    split at hs
    · next cursor hphase =>
      split at hs
      · next event he =>
        cases hs
        obtain ⟨listed,first,rest,seen,hd⟩ := h.draining cursor hphase
        refine ⟨h.keyed,fun hp => absurd rfl (hp (cursor+1)),fun _ hp => (by cases hp),fun _ hp => ?_⟩
        cases hp
        exact ⟨listed,first,rest,seen ++ [event],hd.receive he⟩
      · cases hs
    · cases hs

/-- The handler starts with the invariant. -/
theorem Follows.new (ttl : Duration) : Follows (Stream.new ttl) where
  keyed := (Journaled.new ttl).keyed
  fresh := fun _ => rfl
  subscribed := fun cursor hp => by cases hp
  draining := fun cursor hp => by cases hp

/-- In every interleaving of registry operations with the steps of the handler: when the
stream has yielded its snapshot and every event that was sent since the subscription,
the yielded events folded over the snapshot are the records of the registry, which any
further listing would show. -/
theorem stream_converges (ttl : Duration) (actions : List StreamAction) {s : Stream}
    (hrun : exec Stream.step (Stream.new ttl) actions=some s) {cursor : ℕ}
    (hphase : s.phase=.drain cursor) (hall : cursor=s.registry.events.length) :
    ∃ agents, s.snapshot=some agents ∧ foldRecords agents s.events=recordMap s.registry ∧
      ∀ order, agentRecords s.registry order=
        (foldRecords agents s.events).toList.map Prod.snd := by
  have h : Follows s :=
    invariant_of_exec Follows (fun _ _ _ h hs => h.step hs) hrun (Follows.new ttl)
  obtain ⟨listed,first,rest,seen,hd⟩ := h.draining cursor hphase
  obtain ⟨order,hsnapshot⟩ := hd.snapshot
  obtain ⟨start,hbefore⟩ := hd.before
  have hseen : seen=first ++ rest := by
    rw [←hd.split,hall,List.drop_length,List.append_nil]
  have hreplay : replay (store listed.inner) (seen.map eventChange)=store s.registry.inner := by
    rw [hseen,List.map_append]
    exact hbefore.replay_overlap hd.after
  have hfold := foldRecords_eq hd.keyed order hreplay
  rw [←hd.yielded] at hfold
  refine ⟨agentRecords listed order,hsnapshot,hfold,fun order' => ?_⟩
  rw [hfold,agentRecords_eq h.keyed]

/-- A peer joins before the subscription; before the snapshot its status changes and it
leaves; after the snapshot it joins again. -/
def overlappingRun : List StreamAction :=
  [.registry (.upsertRemote sampleAnnouncement 1),.subscribe,
   .registry (.upsertRemote (setStatus sampleAnnouncement .busy) 2),
   .registry (.removeRemote "agent-local"),.snapshot Iteration.ascending,.receive,
   .registry (.upsertRemote sampleAnnouncement 3),.receive,
   .registry (.upsertRemote sampleAnnouncement 4),.receive]

/-- The stream after this run. -/
def overlappingStream : Stream :=
  (exec Stream.step (Stream.new 120000000000) overlappingRun).get (by decide +kernel)

/-- After the overlap the stream agrees with the registry, which holds the peer. -/
theorem stream_converges_overlapping :
    overlappingStream.snapshot=some [] ∧ overlappingStream.events.length=3 ∧
    ∃ agents, overlappingStream.snapshot=some agents ∧
      foldRecords agents overlappingStream.events=recordMap overlappingStream.registry ∧
      ∀ order, agentRecords overlappingStream.registry order=
        (foldRecords agents overlappingStream.events).toList.map Prod.snd := by
  have hphase : overlappingStream.phase=.drain overlappingStream.registry.events.length := by
    decide +kernel
  refine ⟨by decide +kernel,by decide +kernel,?_⟩
  exact stream_converges 120000000000 overlappingRun (Option.some_get _).symm hphase rfl

end MeshPresence.EventStream
