import MeshPresence.EventChannel
import MeshPresence.EventStream

/-!
# The event stream over a bounded channel

The stream ends when its receiver has fallen behind, since it goes on only while it receives
events. What it yields until then are the events since its subscription, in order and without a
gap. A stream that still runs and waits while no operation is sending agrees with the registry:
events folded over the listing are its records. A stream that ended left more events unread than
the capacity of the channel. The channel is any broadcast channel.
-/

namespace MeshPresence.BoundedStreams

open FiniteMaps ChangeJournal GuardedRuns BroadcastChannels AgentTypes AgentRegistry RegistryJournal
open CampRecords EventStream EventChannel

/-- How far the handler is. -/
inductive BoundedPhase (ρ : Type) where
  /-- Subscribing is next. -/
  | subscribe
  /-- Reading and yielding the snapshot is next. -/
  | snapshot (next : ρ)
  /-- Events are received and yielded. -/
  | drain (next : ρ)
  /-- The stream ended. -/
  | ended
  deriving DecidableEq

/-- The handler has a receiver. -/
def BoundedPhase.listens {ρ : Type} : BoundedPhase ρ → Bool
  | .subscribe => false
  | .snapshot _ => true
  | .drain _ => true
  | .ended => false

/-- A registry and its channel with one event stream. -/
structure BoundedStream (γ ρ : Type) where
  /-- The registry of the mesh and its channel. -/
  bus : EventBus γ
  /-- Progress of the handler. -/
  phase : BoundedPhase ρ
  /-- The listing that was yielded. -/
  snapshot : Option (List AgentRecord)
  /-- The events that were yielded. -/
  events : List EventRecord
  deriving DecidableEq

/-- Steps of the registry and of the handler. -/
inductive BoundedAction where
  /-- A registry operation of any other party starts. -/
  | start (op : RegistryOp)
  /-- The running operation sends an event; other receivers may listen, too. -/
  | send (others : Bool)
  /-- The handler subscribes. -/
  | subscribe
  /-- The stream reads the agents and yields them. -/
  | snapshot (order : AgentOrder)
  /-- The stream receives an event and yields it, or ends. -/
  | receive

variable {γ ρ : Type} {capacity : ℕ}

/-- One step over a channel; the receiver waits when there is no further event, and the listing
waits for the lock. -/
def BoundedStream.step (broadcast : Broadcast γ ρ AgentEvent capacity) (s : BoundedStream γ ρ) :
    BoundedAction → Option (BoundedStream γ ρ)
  | .start op => (s.bus.start op).map fun bus => { s with bus }
  | .send others => (s.bus.send broadcast (others || s.phase.listens)).map fun bus => { s with bus }
  | .subscribe =>
    match s.phase with
    | .subscribe => some { s with phase := .snapshot (broadcast.subscribe s.bus.channel) }
    | _ => none
  | .snapshot order =>
    match s.phase with
    | .snapshot next =>
      if s.bus.unsent=0 then
        some { s with snapshot := some (agentRecords s.bus.registry order), phase := .drain next }
      else none
    | _ => none
  | .receive =>
    match s.phase with
    | .drain next =>
      match broadcast.recv s.bus.channel next with
      | .value event next =>
        some { s with events := s.events ++ (toEventRecord event).toList, phase := .drain next }
      | .lagged _ _ => some { s with phase := .ended }
      | .empty => none
    | _ => none

/-- An empty registry before the handler runs. -/
def BoundedStream.new (broadcast : Broadcast γ ρ AgentEvent capacity) (ttl : Duration) :
    BoundedStream γ ρ where
  bus := EventBus.new broadcast ttl
  phase := .subscribe
  snapshot := none
  events := []

/-- How the phases correspond to those of a stream whose channel keeps everything, when the
published events up to a place were received. -/
def Corresponds (broadcast : Broadcast γ ρ AgentEvent capacity) (bus : EventBus γ) (cursor : ℕ) :
    BoundedPhase ρ → StreamPhase → Prop
  | .subscribe, _ => False
  | .snapshot next, phase => phase=.snapshot cursor ∧ Unread broadcast bus next cursor
  | .drain next, phase => phase=.drain cursor ∧ Unread broadcast bus next cursor
  | .ended, phase => phase=.drain cursor ∧ cursor+capacity<bus.published.length

/-- A stream since its subscription is like one whose channel keeps everything: it has yielded
the published events from the subscription up to some place. -/
structure Tracks (broadcast : Broadcast γ ρ AgentEvent capacity) (first : ℕ)
    (s : BoundedStream γ ρ) (t : Stream) (cursor : ℕ) : Prop where
  /-- The other stream keeps its invariant. -/
  follows : Follows t
  /-- The registries agree. -/
  registry : t.registry=s.bus.registry
  /-- The listings agree. -/
  snapshot : t.snapshot=s.snapshot
  /-- The yielded events agree. -/
  events : t.events=s.events
  /-- The place is behind the subscription. -/
  later : first ≤ cursor
  /-- The events since the subscription were yielded. -/
  yielded : s.events=((s.bus.published.drop first).take (cursor-first)).filterMap toEventRecord
  /-- The phases correspond. -/
  phase : Corresponds broadcast s.bus cursor s.phase t.phase

variable {broadcast : Broadcast γ ρ AgentEvent capacity} {first cursor : ℕ}
  {s s' : BoundedStream γ ρ} {t : Stream}

/-- What was received was published. -/
theorem Corresponds.within {bus : EventBus γ} {phase : BoundedPhase ρ} {other : StreamPhase}
    (h : Corresponds broadcast bus cursor phase other) : cursor ≤ bus.published.length := by
  cases phase with
  | subscribe => cases h
  | snapshot next | drain next => exact h.2.within
  | ended => exact (Nat.le_add_right _ _).trans h.2.le

/-- Phases go on to correspond when the channel moves and nothing unread is lost. -/
theorem Corresponds.bus {bus bus' : EventBus γ} {phase : BoundedPhase ρ} {other : StreamPhase}
    (h : Corresponds broadcast bus cursor phase other)
    (hlength : bus.published.length ≤ bus'.published.length)
    (hunread : ∀ next, phase.listens=true → Unread broadcast bus next cursor →
      Unread broadcast bus' next cursor) : Corresponds broadcast bus' cursor phase other := by
  cases phase with
  | subscribe => exact h
  | snapshot next | drain next => exact ⟨h.1,hunread next rfl h.2⟩
  | ended => exact ⟨h.1,h.2.trans_le hlength⟩

/-- The other stream makes the same registry operation. -/
theorem Tracks.start (h : Tracks broadcast first s t cursor) {op : RegistryOp} {bus : EventBus γ}
    (hbus : s.bus.start op=some bus) :
    Tracks broadcast first { s with bus } { t with registry := RegistryOp.run t.registry op }
      cursor := by
  have hkeyed : KeyedById s.bus.registry.inner := h.registry ▸ h.follows.keyed
  obtain ⟨-,-,hregistry,hpublished⟩ := start_cases hkeyed hbus
  have hother : t.step (.registry op)=some { t with registry := RegistryOp.run t.registry op } :=
    rfl
  refine ⟨h.follows.step hother,?_,h.snapshot,h.events,h.later,?_,?_⟩
  · rw [hregistry,h.registry]
  · rw [hpublished]
    exact h.yielded
  · exact h.phase.bus (by rw [hpublished]) fun next _ hunread => hunread.start hkeyed hbus

/-- An event that is sent is unread for a stream that listens. -/
theorem Tracks.send (h : Tracks broadcast first s t cursor) {others : Bool} {bus : EventBus γ}
    (hbus : s.bus.send broadcast (others || s.phase.listens)=some bus) :
    Tracks broadcast first { s with bus } t cursor := by
  obtain ⟨hregistry,event,hpublished,-⟩ := send_cases hbus
  have hwithin := h.phase.within
  refine ⟨h.follows,h.registry.trans hregistry.symm,h.snapshot,h.events,h.later,?_,?_⟩
  · rw [hpublished,take_drop_append (by rwa [Nat.add_sub_cancel' h.later])]
    exact h.yielded
  · refine h.phase.bus ?_ fun next hlistens hunread => ?_
    · rw [hpublished,List.length_append]
      exact Nat.le_add_right _ _
    · rw [hlistens,Bool.or_true] at hbus
      exact hunread.send hbus

/-- The other stream lists the same agents. -/
theorem Tracks.list (h : Tracks broadcast first s t cursor) {order : AgentOrder} {next : ρ}
    (hp : s.phase=.snapshot next) :
    Tracks broadcast first
      { s with snapshot := some (agentRecords s.bus.registry order), phase := .drain next }
      { t with snapshot := some (agentRecords t.registry order), phase := .drain cursor }
      cursor := by
  have hphase := h.phase
  rw [hp] at hphase
  obtain ⟨hother,hunread⟩ := hphase
  have hstep : t.step (.snapshot order)=some { t with
      snapshot := some (agentRecords t.registry order), phase := .drain cursor } := by
    simp only [Stream.step,hother]
  exact ⟨h.follows.step hstep,h.registry,by rw [h.registry],h.events,h.later,h.yielded,rfl,hunread⟩

/-- The other stream receives the same event. -/
theorem Tracks.receive (h : Tracks broadcast first s t cursor) {next after : ρ} {event : AgentEvent}
    (hp : s.phase=.drain next) (hevent : s.bus.published[cursor]?=some event)
    (hrest : Unread broadcast s.bus after (cursor+1)) :
    Tracks broadcast first
      { s with events := s.events ++ (toEventRecord event).toList, phase := .drain after }
      { t with events := t.events ++ (toEventRecord event).toList, phase := .drain (cursor+1) }
      (cursor+1) := by
  have hphase := h.phase
  rw [hp] at hphase
  have hlog := getElem?_of_published hevent
  have hstep : t.step .receive=some { t with
      events := t.events ++ (toEventRecord event).toList, phase := .drain (cursor+1) } := by
    simp only [Stream.step,hphase.1,h.registry,hlog]
  refine ⟨h.follows.step hstep,h.registry,h.snapshot,by rw [h.events],
    h.later.trans (Nat.le_succ _),?_,rfl,hrest⟩
  have hnext : (s.bus.published.drop first)[cursor-first]?=some event := by
    rw [List.getElem?_drop,Nat.add_sub_cancel' h.later]
    exact hevent
  have hsub : cursor+1-first=cursor-first+1 := Nat.sub_add_comm h.later
  rw [h.yielded,hsub,List.take_add_one,hnext,List.filterMap_append]
  cases event <;> rfl

/-- A stream that has fallen behind ends. -/
theorem Tracks.lag (h : Tracks broadcast first s t cursor) {next : ρ} (hp : s.phase=.drain next)
    (hlost : cursor+capacity<s.bus.published.length) :
    Tracks broadcast first { s with phase := .ended } t cursor := by
  have hphase := h.phase
  rw [hp] at hphase
  exact ⟨h.follows,h.registry,h.snapshot,h.events,h.later,h.yielded,hphase.1,hlost⟩

/-- Every step keeps the correspondence. -/
theorem Tracks.step {action : BoundedAction} (h : Tracks broadcast first s t cursor)
    (hs : s.step broadcast action=some s') :
    ∃ t' cursor', Tracks broadcast first s' t' cursor' := by
  have hphase := h.phase
  cases action with
  | start op =>
    obtain ⟨bus,hbus,rfl⟩ := Option.map_eq_some_iff.mp hs
    exact ⟨_,cursor,h.start hbus⟩
  | send others =>
    obtain ⟨bus,hbus,rfl⟩ := Option.map_eq_some_iff.mp hs
    exact ⟨t,cursor,h.send hbus⟩
  | subscribe =>
    simp only [BoundedStream.step] at hs
    split at hs
    · next hp =>
      rw [hp] at hphase
      cases hphase
    · cases hs
  | snapshot order =>
    simp only [BoundedStream.step] at hs
    split at hs
    · next next hp =>
      split at hs <;> cases hs
      exact ⟨_,cursor,h.list hp⟩
    · cases hs
  | receive =>
    simp only [BoundedStream.step] at hs
    split at hs
    · next next hp =>
      rw [hp] at hphase
      rcases hphase.2.recv_cases with
        ⟨-,hr⟩|⟨event,after,hevent,hr,hrest⟩|⟨hlost,missed,oldest,hr⟩ <;> rw [hr] at hs <;> cases hs
      · exact ⟨_,cursor+1,h.receive hp hevent hrest⟩
      · exact ⟨t,cursor,h.lag hp hlost⟩
    · cases hs

/-- Every run keeps the correspondence. -/
theorem Tracks.run {actions : List BoundedAction} (h : Tracks broadcast first s t cursor)
    (hrun : exec (BoundedStream.step broadcast) s actions=some s') :
    ∃ t' cursor', Tracks broadcast first s' t' cursor' :=
  invariant_of_exec (fun s => ∃ t cursor, Tracks broadcast first s t cursor)
    (fun _ _ _ ⟨_,_,h⟩ hs => h.step hs) hrun ⟨t,cursor,h⟩

/-- A log that describes the registry, and nothing yielded by a handler that has not
subscribed. -/
structure Idle (s : BoundedStream γ ρ) : Prop where
  /-- The log leads to the registry. -/
  journaled : Journaled s.bus.registry
  /-- Nothing is yielded before the subscription. -/
  silent : s.phase=.subscribe → s.events=[]

/-- The handler starts idle. -/
theorem Idle.new (broadcast : Broadcast γ ρ AgentEvent capacity) (ttl : Duration) :
    Idle (BoundedStream.new broadcast ttl) :=
  ⟨Journaled.new ttl,fun _ => rfl⟩

/-- A registry operation is a step of the journal. -/
theorem journaled_start {bus bus' : EventBus γ} {op : RegistryOp}
    (h : Journaled bus.registry) (hs : bus.start op=some bus') : Journaled bus'.registry := by
  obtain ⟨sent,ht⟩ := run_transition h.keyed op
  obtain ⟨-,-,hregistry,-⟩ := start_cases h.keyed hs
  exact hregistry ▸ h.step ht

/-- Every step leads to an idle state again. -/
theorem Idle.step {action : BoundedAction} (h : Idle s) (hs : s.step broadcast action=some s') :
    Idle s' := by
  cases action with
  | start op =>
    obtain ⟨bus,hbus,rfl⟩ := Option.map_eq_some_iff.mp hs
    exact ⟨journaled_start h.journaled hbus,h.silent⟩
  | send others =>
    obtain ⟨bus,hbus,rfl⟩ := Option.map_eq_some_iff.mp hs
    exact ⟨(send_cases hbus).1 ▸ h.journaled,h.silent⟩
  | subscribe =>
    simp only [BoundedStream.step] at hs
    split at hs
    · cases hs
      exact ⟨h.journaled,fun hp => by cases hp⟩
    · cases hs
  | snapshot order =>
    simp only [BoundedStream.step] at hs
    split at hs
    · split at hs
      · cases hs
        exact ⟨h.journaled,fun hp => by cases hp⟩
      · cases hs
    · cases hs
  | receive =>
    simp only [BoundedStream.step] at hs
    split at hs
    · split at hs
      · cases hs
        exact ⟨h.journaled,fun hp => by cases hp⟩
      · cases hs
        exact ⟨h.journaled,fun hp => by cases hp⟩
      · cases hs
    · cases hs

/-- A handler that subscribes yields the events from there on. -/
theorem Idle.subscribe (h : Idle s) (hs : s.step broadcast .subscribe=some s') :
    ∃ t, Tracks broadcast s.bus.published.length s' t s.bus.published.length := by
  simp only [BoundedStream.step] at hs
  split at hs
  · next hp =>
    cases hs
    have hlength := length_published s.bus
    have hunread : Subscribed s.bus.registry s.bus.published.length := by
      have hjournal := h.journaled.journal
      rw [←List.take_append_drop s.bus.published.length s.bus.registry.events,List.map_append]
        at hjournal
      exact ⟨hlength ▸ Nat.sub_le _ _,_,hjournal.behind⟩
    have hfollows : Follows { registry := s.bus.registry
                              phase := .snapshot s.bus.published.length
                              snapshot := s.snapshot
                              events := s.events } := by
      refine ⟨h.journaled.keyed,fun _ => h.silent hp,fun cursor hc => ?_,fun cursor hc => by cases hc⟩
      cases hc
      exact hunread
    refine ⟨_,hfollows,rfl,rfl,rfl,le_refl _,?_,rfl,.subscribe broadcast s.bus⟩
    rw [Nat.sub_self,List.take_zero]
    exact h.silent hp
  · cases hs

/-- A stream that has yielded the whole log agrees with the registry. -/
theorem agrees_of_follows {t : Stream} (h : Follows t)
    (hphase : t.phase=.drain t.registry.events.length) :
    ∃ agents, t.snapshot=some agents ∧ foldRecords agents t.events=recordMap t.registry := by
  obtain ⟨listed,first,rest,seen,hd⟩ := h.draining _ hphase
  obtain ⟨order,hsnapshot⟩ := hd.snapshot
  obtain ⟨start,hbefore⟩ := hd.before
  have hsplit := hd.split
  rw [List.drop_length,List.append_nil] at hsplit
  have hreplay : replay (store listed.inner) (seen.map eventChange)=store t.registry.inner := by
    rw [hsplit,List.map_append]
    exact hbefore.replay_overlap hd.after
  refine ⟨_,hsnapshot,?_⟩
  rw [hd.yielded]
  exact foldRecords_eq hd.keyed order hreplay

/-- In every run with a broadcast channel of any capacity, and with operations whose sends
interleave with the steps of the handler: the stream has yielded the events that were published
since its subscription up to some place, in order and without a gap. When it ended, more events
than the capacity are unread. When it waits and no operation is sending, the yielded events folded
over the listing are the records of the registry. -/
theorem stream_is_gapless (broadcast : Broadcast γ ρ AgentEvent capacity) (ttl : Duration)
    (before after : List BoundedAction) {subscriber s : BoundedStream γ ρ}
    (hbefore : exec (BoundedStream.step broadcast) (BoundedStream.new broadcast ttl) before=
      some subscriber)
    (hafter : exec (BoundedStream.step broadcast) subscriber (.subscribe :: after)=some s) :
    ∃ received, subscriber.bus.published.length+received ≤ s.bus.published.length ∧
      s.events=((s.bus.published.drop subscriber.bus.published.length).take received).filterMap
        toEventRecord ∧
      (s.phase=.ended →
        subscriber.bus.published.length+received+capacity<s.bus.published.length) ∧
      ((∃ next, s.phase=.drain next) → s.step broadcast .receive=none → s.bus.unsent=0 →
        ∃ agents, s.snapshot=some agents ∧ foldRecords agents s.events=recordMap s.bus.registry) := by
  have hidle : Idle subscriber :=
    invariant_of_exec Idle (fun _ _ _ h hs => h.step hs) hbefore (.new broadcast ttl)
  obtain ⟨u,hsubscribe,hrest⟩ := exec_cons hafter
  obtain ⟨_,htracks⟩ := hidle.subscribe hsubscribe
  obtain ⟨t,cursor,h⟩ := htracks.run hrest
  have hplace : subscriber.bus.published.length+
      (cursor-subscriber.bus.published.length)=cursor := Nat.add_sub_cancel' h.later
  have hphase := h.phase
  refine ⟨cursor-subscriber.bus.published.length,hplace.symm ▸ hphase.within,h.yielded,
    fun hended => ?_,fun ⟨next,hp⟩ hwaits hfree => ?_⟩
  · rw [hended] at hphase
    exact hplace.symm ▸ hphase.2
  · rw [hp] at hphase
    obtain ⟨hother,hunread⟩ := hphase
    have hempty : broadcast.recv s.bus.channel next=.empty := by
      rw [BoundedStream.step,hp] at hwaits
      dsimp only at hwaits
      split at hwaits
      · cases hwaits
      · cases hwaits
      · next hr => exact hr
    have hall := hunread.waits hempty
    rw [published_of_free hfree,←h.registry] at hall
    rw [←h.snapshot,←h.events,←h.registry]
    exact agrees_of_follows h.follows (hall ▸ hother)

/-- An agent joins while nobody listens. -/
def unheardJoin : List BoundedAction :=
  [.start (.upsertRemote sampleAnnouncement 1),.send false]

/-- Behind the subscription an update is received; then the agent leaves and comes back with
another status before the stream receives again. -/
def fallsBehind : List BoundedAction :=
  [.start (.upsertRemote (setStatus sampleAnnouncement .busy) 2),.send false,
   .snapshot Iteration.ascending,.receive,.start (.removeRemote "agent-local"),.send false,
   .start (.upsertRemote sampleAnnouncement 3),.send false,
   .start (.upsertRemote (setStatus sampleAnnouncement .busy) 4),.send false,.receive]

/-- The handler before its subscription to a channel with two slots. -/
def unsubscribedStream : BoundedStream (Channel AgentEvent 2) ℕ :=
  (exec (BoundedStream.step twoSlots) (BoundedStream.new twoSlots 120000000000) unheardJoin).get
    (by decide +kernel)

/-- The stream after this run. -/
def endedStream : BoundedStream (Channel AgentEvent 2) ℕ :=
  (exec (BoundedStream.step twoSlots) unsubscribedStream (.subscribe :: fallsBehind)).get
    (by decide +kernel)

/-- The stream has yielded the first event since its subscription and left three unread. -/
theorem stream_is_gapless_ended : endedStream.phase=.ended ∧ endedStream.events.length=1 ∧
    ∃ received, 1+received ≤ endedStream.bus.published.length ∧
      endedStream.events=((endedStream.bus.published.drop 1).take received).filterMap
        toEventRecord ∧
      1+received+2<endedStream.bus.published.length := by
  have hended : endedStream.phase=.ended := by decide +kernel
  have hfirst : unsubscribedStream.bus.published.length=1 := by decide +kernel
  have hbefore : exec (BoundedStream.step twoSlots) (BoundedStream.new twoSlots 120000000000)
      unheardJoin=some unsubscribedStream := (Option.some_get _).symm
  have hafter : exec (BoundedStream.step twoSlots) unsubscribedStream (.subscribe :: fallsBehind)=
      some endedStream := (Option.some_get _).symm
  obtain ⟨received,hwithin,hyielded,hlost,-⟩ :=
    stream_is_gapless twoSlots 120000000000 unheardJoin fallsBehind hbefore hafter
  rw [hfirst] at hwithin hyielded hlost
  exact ⟨hended,by decide +kernel,received,hwithin,hyielded,hlost hended⟩

end MeshPresence.BoundedStreams
