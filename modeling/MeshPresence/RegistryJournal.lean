import MeshPresence.AgentRegistry
import MeshPresence.ChangeJournal

/-!
# The event log is a journal of the registry

Every registry operation sends events that describe exactly what it did to the
map, up to the observation times. One transition lemma per operation shows the
sent events to be a journal from the payloads before to the payloads after;
runs of any length follow by composition of journals.
-/

namespace MeshPresence.RegistryJournal

open FiniteMaps ChangeJournal AgentTypes AgentRegistry

/-- The change of the payload store that an event reports. -/
def eventChange : AgentEvent → Change String AgentAnnouncement
  | .joined agent _ => .joined agent.id agent.payload
  | .updated previous current _ => .updated current.id previous.payload current.payload
  | .left agent _ _ => .left agent.id agent.payload

/-- Payloads of a map of records, by identifier. -/
def store (m : AgentMap) : String → Option AgentAnnouncement :=
  fun id => m[id]?.map AgentInfo.payload

/-- Fold one event into a map: carried snapshots are set, leaving agents deleted. -/
def replayEvent (m : AgentMap) : AgentEvent → AgentMap
  | .joined agent _ => m.insert agent.id agent
  | .updated _ current _ => m.insert current.id current
  | .left agent _ _ => m.erase agent.id

/-- The map that a subscriber rebuilds from the events alone. -/
def replayEvents (events : List AgentEvent) : AgentMap := events.foldl replayEvent ∅

/-- Every record is stored under its own identifier. -/
def KeyedById (m : AgentMap) : Prop :=
  ∀ (id : String) (agent : AgentInfo), m[id]?=some agent → agent.id=id

/-- The earlier records that an event carries are those of the map before it. -/
def ExactIn (m : AgentMap) : AgentEvent → Prop
  | .joined agent _ => m[agent.id]?=none
  | .updated previous current _ => m[current.id]?=some previous
  | .left agent _ _ => m[agent.id]?=some agent

/-- Setting a record updates the payload store at its key. -/
theorem store_insert (m : AgentMap) (id : String) (agent : AgentInfo) :
    store (m.insert id agent)=Function.update (store m) id (some agent.payload) := by
  funext k
  simp only [store,getElem?_insert,Function.update_apply,eq_comm (a:=id)]
  split <;> rfl

/-- Deleting a record clears the payload store at its key. -/
theorem store_erase (m : AgentMap) (id : String) :
    store (m.erase id)=Function.update (store m) id none := by
  funext k
  simp only [store,getElem?_erase,Function.update_apply,eq_comm (a:=id)]
  split <;> rfl

/-- A new observation time of a stored record is invisible in the payloads. -/
theorem store_refresh {m : AgentMap} {id : String} {agent : AgentInfo} (h : m[id]?=some agent)
    (seenAt : Instant) : store (m.insert id (refreshLastSeen agent seenAt))=store m := by
  rw [store_insert,payload_refreshLastSeen,Function.update_eq_self_iff]
  simp only [store,h,Option.map_some]

/-- Folding an event into a map is applying its change to the payloads. -/
theorem store_replay (m : AgentMap) (event : AgentEvent) :
    store (replayEvent m event)=(eventChange event).apply (store m) := by
  cases event with
  | joined agent origin => exact store_insert m agent.id agent
  | updated previous current origin => exact store_insert m current.id current
  | left agent origin reason => exact store_erase m agent.id

/-- A subscriber's map carries the payloads that the changes replay to. -/
theorem store_replayEvents (events : List AgentEvent) :
    store (replayEvents events)=
      ChangeJournal.replay (fun _ => none) (events.map eventChange) := by
  have h : ∀ m : AgentMap, store (events.foldl replayEvent m)=
      ChangeJournal.replay (store m) (events.map eventChange) := by
    induction events with
    | nil => exact fun _ => rfl
    | cons event events ih =>
      intro m
      rw [List.foldl_cons,ih,store_replay]
      rfl
  rw [replayEvents,h]
  rfl

/-- Inserting a record under its own identifier keeps the map keyed. -/
theorem KeyedById.insert {m : AgentMap} (h : KeyedById m) {id : String} {agent : AgentInfo}
    (hid : agent.id=id) : KeyedById (m.insert id agent) := by
  intro k other hk
  rw [getElem?_insert] at hk
  split at hk
  · next he =>
    cases hk
    exact hid.trans he
  · exact h k other hk

/-- Deleting a record keeps the map keyed. -/
theorem KeyedById.erase {m : AgentMap} (h : KeyedById m) (id : String) :
    KeyedById (m.erase id) := by
  intro k other hk
  rw [getElem?_erase] at hk
  split at hk
  · cases hk
  · exact h k other hk

/-- One registry operation with the events it sends. -/
structure Transition (r : Registry) (sent : List AgentEvent) (r' : Registry) : Prop where
  /-- The map stays keyed. -/
  keyed : KeyedById r'.inner
  /-- The events are appended to the log. -/
  events : r'.events=r.events ++ sent
  /-- The events describe the change of the payloads. -/
  journal : Journal (store r.inner) (sent.map eventChange) (store r'.inner)
  /-- The events carry records of the map before the operation. -/
  exact : ∀ event ∈ sent, ExactIn r.inner event

/-- Nothing happens and nothing is sent. -/
theorem Transition.refl {r : Registry} (h : KeyedById r.inner) : Transition r [] r where
  keyed := h
  events := (List.append_nil _).symm
  journal := Journal.refl _
  exact := fun _ he => absurd he List.not_mem_nil

/-- A reader at a position of the log finds the sent events after those it had not read. -/
theorem Transition.unread {r r' : Registry} {sent : List AgentEvent} (h : Transition r sent r')
    {cursor : ℕ} (hcursor : cursor ≤ r.events.length) :
    cursor ≤ r'.events.length ∧ r'.events.drop cursor=r.events.drop cursor ++ sent := by
  rw [h.events,List.length_append,List.drop_append_of_le_length hcursor]
  exact ⟨by omega,rfl⟩

/-- A silent refresh of a stored record. -/
theorem Transition.refresh {r : Registry} (hk : KeyedById r.inner) {id : String}
    {agent : AgentInfo} (h : r.inner[id]?=some agent) (seenAt : Instant) :
    Transition r [] { r with inner := r.inner.insert id (refreshLastSeen agent seenAt) } where
  keyed := hk.insert (hk id agent h)
  events := (List.append_nil _).symm
  journal := (store_refresh h seenAt).symm ▸ Journal.refl _
  exact := fun _ he => absurd he List.not_mem_nil

/-- A record is stored under an absent key and reported as joined. -/
theorem Transition.join {r : Registry} (hk : KeyedById r.inner) (agent : AgentInfo)
    (h : r.inner[agent.id]?=none) (origin : EventOrigin) :
    Transition r [.joined agent origin]
      { r with inner := r.inner.insert agent.id agent
               events := r.events ++ [.joined agent origin] } where
  keyed := hk.insert rfl
  events := rfl
  journal := by
    have hl : (eventChange (.joined agent origin)).Legal (store r.inner) := by
      simp only [eventChange,Change.Legal,store,h,Option.map_none]
    have hj := Journal.single hl
    rwa [←store_replay] at hj
  exact := fun event he => List.mem_singleton.mp he ▸ h

/-- A stored record is replaced and reported as updated. -/
theorem Transition.update {r : Registry} (hk : KeyedById r.inner) {previous : AgentInfo}
    (agent : AgentInfo) (h : r.inner[agent.id]?=some previous) (origin : EventOrigin) :
    Transition r [.updated previous agent origin]
      { r with inner := r.inner.insert agent.id agent
               events := r.events ++ [.updated previous agent origin] } where
  keyed := hk.insert rfl
  events := rfl
  journal := by
    have hl : (eventChange (.updated previous agent origin)).Legal (store r.inner) := by
      simp only [eventChange,Change.Legal,store,h,Option.map_some]
    have hj := Journal.single hl
    rwa [←store_replay] at hj
  exact := fun event he => List.mem_singleton.mp he ▸ h

/-- A stored record is deleted and reported as left. -/
theorem Transition.leave {r : Registry} (hk : KeyedById r.inner) {id : String}
    {agent : AgentInfo} (h : r.inner[id]?=some agent) (origin : EventOrigin)
    (reason : DepartureReason) :
    Transition r [.left agent origin reason]
      { r with inner := r.inner.erase id
               events := r.events ++ [.left agent origin reason] } where
  keyed := hk.erase id
  events := rfl
  journal := by
    have hid := hk id agent h
    subst hid
    have hl : (eventChange (.left agent origin reason)).Legal (store r.inner) := by
      simp only [eventChange,Change.Legal,store,h,Option.map_some]
    have hj := Journal.single hl
    rwa [←store_replay] at hj
  exact := fun event he => by
    rw [List.mem_singleton.mp he,ExactIn,hk id agent h,h]

/-- An upsert is a join, a silent refresh, or an update. -/
theorem upsert_transition {r : Registry} (hk : KeyedById r.inner) (a : AgentAnnouncement)
    (t : Instant) (origin : EventOrigin) :
    ∃ sent, Transition r sent (r.upsertWithOriginAt a t origin).2 := by
  rcases upsertWithOriginAt_cases r a t origin with ⟨h,he⟩|⟨e,h,-,he⟩|⟨e,h,-,he⟩ <;> rw [he]
  · exact ⟨_,Transition.join hk (intoAgentInfo a t) h origin⟩
  · exact ⟨_,Transition.refresh hk h t⟩
  · exact ⟨_,Transition.update hk (intoAgentInfo a t) h origin⟩

/-- A removal is a leave, or nothing when the identifier is absent. -/
theorem removeWithOrigin_transition {r : Registry} (hk : KeyedById r.inner) (id : String)
    (origin : EventOrigin) (reason : DepartureReason) :
    ∃ sent, Transition r sent (r.removeWithOrigin id origin reason).2 := by
  unfold Registry.removeWithOrigin
  split
  · next agent h => exact ⟨_,Transition.leave hk h origin reason⟩
  · exact ⟨_,Transition.refl hk⟩

/-- A removal by instance name is a leave of one record or nothing. -/
theorem removeRemoteByInstanceName_transition {r : Registry} (hk : KeyedById r.inner)
    (order : AgentOrder) (name : String) :
    ∃ sent, Transition r sent (r.removeRemoteByInstanceName order name).2 := by
  rcases removeRemoteByInstanceName_cases r order name with ⟨-,he⟩|⟨id,agent,-,-,he⟩ <;> rw [he]
  · exact ⟨_,Transition.refl hk⟩
  · exact removeWithOrigin_transition hk id .remoteOrigin .graceful

/-- Evicting a list of identifiers reports every evicted record, once, with the
record as it stood before the first eviction. -/
theorem evict_transition (ids : List String) {r : Registry} (hk : KeyedById r.inner)
    (evicted : List AgentInfo) :
    ∃ gone : List AgentInfo, (ids.foldl evictOne (evicted,r)).1=evicted ++ gone ∧
      Transition r (gone.map fun agent => .left agent .remoteOrigin .expired)
        (ids.foldl evictOne (evicted,r)).2 := by
  induction ids generalizing r evicted with
  | nil => exact ⟨[],(List.append_nil _).symm,Transition.refl hk⟩
  | cons id ids ih =>
    rw [List.foldl_cons]
    cases h : r.inner[id]? with
    | none =>
      have hone : evictOne (evicted,r) id=(evicted,r) := by simp only [evictOne,h]
      rw [hone]
      exact ih hk evicted
    | some agent =>
      have hfirst := Transition.leave hk h .remoteOrigin .expired
      have hone : evictOne (evicted,r) id=(evicted ++ [agent],
          { r with inner := r.inner.erase id
                   events := r.events ++ [.left agent .remoteOrigin .expired] }) := by
        simp only [evictOne,h,Registry.send]
      obtain ⟨gone,hgone,hrest⟩ := ih hfirst.keyed (evicted ++ [agent])
      rw [hone]
      refine ⟨agent :: gone,by rw [hgone,List.append_assoc,List.singleton_append],?_⟩
      refine ⟨hrest.keyed,?_,?_,?_⟩
      · rw [hrest.events,List.append_assoc,List.map_cons,List.singleton_append]
      · rw [List.map_cons,←List.singleton_append,List.map_append]
        exact hfirst.journal.trans hrest.journal
      · intro event he
        rcases List.mem_cons.mp he with rfl|he
        · exact hfirst.exact _ (List.mem_singleton_self _)
        · obtain ⟨other,-,rfl⟩ := List.mem_map.mp he
          have hother := hrest.exact _ he
          rw [ExactIn,getElem?_erase] at hother
          split at hother
          · cases hother
          · exact hother

/-- The events of an upsert are about its announcement. -/
theorem upsert_events (r : Registry) (a : AgentAnnouncement) (t : Instant) (origin : EventOrigin) :
    ∃ sent, (r.upsertWithOriginAt a t origin).2.events=r.events ++ sent ∧
      ∀ event ∈ sent, event.agent.id=a.agentId := by
  rcases upsertWithOriginAt_cases r a t origin with ⟨-,he⟩|⟨e,-,-,he⟩|⟨e,-,-,he⟩ <;> rw [he]
  · exact ⟨_,rfl,fun event hm => List.mem_singleton.mp hm ▸ rfl⟩
  · exact ⟨[],(List.append_nil _).symm,fun event hm => absurd hm List.not_mem_nil⟩
  · exact ⟨_,rfl,fun event hm => List.mem_singleton.mp hm ▸ rfl⟩

/-- The events of a removal by identifier are about that identifier. -/
theorem removeWithOrigin_events {r : Registry} (hk : KeyedById r.inner) (id : String)
    (origin : EventOrigin) (reason : DepartureReason) :
    ∃ sent, (r.removeWithOrigin id origin reason).2.events=r.events ++ sent ∧
      ∀ event ∈ sent, event.agent.id=id := by
  unfold Registry.removeWithOrigin
  split
  · next agent h => exact ⟨_,rfl,fun event hm => List.mem_singleton.mp hm ▸ hk id agent h⟩
  · exact ⟨[],(List.append_nil _).symm,fun event hm => absurd hm List.not_mem_nil⟩

/-- The public mutators of the registry. -/
inductive RegistryOp where
  /-- `upsert_local`. -/
  | upsertLocal (announcement : AgentAnnouncement) (now : Instant)
  /-- `upsert_remote`. -/
  | upsertRemote (announcement : AgentAnnouncement) (now : Instant)
  /-- `remove_local`. -/
  | removeLocal (agentId : String)
  /-- `remove_remote`. -/
  | removeRemote (agentId : String)
  /-- `remove_remote_by_instance_name`. -/
  | removeRemoteByInstanceName (order : AgentOrder) (instanceName : String)
  /-- `evict_stale_at`. -/
  | evictStaleAt (order : AgentOrder) (now : Instant)

/-- Registry after one operation. -/
def RegistryOp.run (r : Registry) : RegistryOp → Registry
  | .upsertLocal announcement now => (r.upsertLocal announcement now).2
  | .upsertRemote announcement now => (r.upsertRemote announcement now).2
  | .removeLocal agentId => (r.removeLocal agentId).2
  | .removeRemote agentId => (r.removeRemote agentId).2
  | .removeRemoteByInstanceName order name => (r.removeRemoteByInstanceName order name).2
  | .evictStaleAt order now => (r.evictStaleAt order now).2

/-- Registry after a sequence of operations. -/
def runOps (r : Registry) (ops : List RegistryOp) : Registry := ops.foldl RegistryOp.run r

/-- Every operation on a keyed registry is a transition. -/
theorem run_transition {r : Registry} (hk : KeyedById r.inner) (op : RegistryOp) :
    ∃ sent, Transition r sent (RegistryOp.run r op) := by
  cases op with
  | upsertLocal a t => exact upsert_transition hk a t .localOrigin
  | upsertRemote a t => exact upsert_transition hk a t .remoteOrigin
  | removeLocal id => exact removeWithOrigin_transition hk id .localOrigin .graceful
  | removeRemote id => exact removeWithOrigin_transition hk id .remoteOrigin .graceful
  | removeRemoteByInstanceName order name =>
    exact removeRemoteByInstanceName_transition hk order name
  | evictStaleAt order now =>
    obtain ⟨gone,-,h⟩ := evict_transition (r.staleIds order now) hk []
    exact ⟨_,h⟩

/-- The log so far is a journal from the empty store to the stored payloads. -/
structure Journaled (r : Registry) : Prop where
  /-- The map is keyed. -/
  keyed : KeyedById r.inner
  /-- The log leads from nothing to the current payloads. -/
  journal : Journal (fun _ => none) (r.events.map eventChange) (store r.inner)

/-- A new registry has an empty log. -/
theorem Journaled.new (ttl : Duration) : Journaled (Registry.new ttl) where
  keyed := fun id agent h => by
    simp only [Registry.new,Std.ExtTreeMap.getElem?_empty,reduceCtorEq] at h
  journal := by
    funext id
    simp only [Registry.new,store,Std.ExtTreeMap.getElem?_empty,Option.map_none]

/-- A transition extends the journal. -/
theorem Journaled.step {r r' : Registry} {sent : List AgentEvent} (h : Journaled r)
    (ht : Transition r sent r') : Journaled r' where
  keyed := ht.keyed
  journal := by
    rw [ht.events,List.map_append]
    exact h.journal.trans ht.journal

/-- Every run from a new registry is journaled. -/
theorem Journaled.runOps (ttl : Duration) (ops : List RegistryOp) :
    Journaled (RegistryJournal.runOps (Registry.new ttl) ops) := by
  refine List.foldlRecOn ops RegistryOp.run (Journaled.new ttl) fun r h op _ => ?_
  obtain ⟨sent,ht⟩ := run_transition h.keyed op
  exact h.step ht

/-- The result of an upsert names the event that was sent, and a refresh is the
upsert that sends nothing and changes no payload. -/
structure UpsertReported (r : Registry) (origin : EventOrigin)
    (outcome : RegistryUpsert × Registry) : Prop where
  /-- Insertions are the joins. -/
  inserted : ∀ agent, outcome.1=.inserted agent ↔
    outcome.2.events=r.events ++ [.joined agent origin]
  /-- Updates are the update events, with the same two records. -/
  updated : ∀ previous current, outcome.1=.updated previous current ↔
    outcome.2.events=r.events ++ [.updated previous current origin]
  /-- Refreshes are silent and keep every payload. -/
  refreshed : (∃ agent, outcome.1=.refreshed agent) ↔
    outcome.2.events=r.events ∧ store outcome.2.inner=store r.inner

/-- Every upsert reports what it did. -/
theorem upsert_reported (r : Registry) (a : AgentAnnouncement) (t : Instant)
    (origin : EventOrigin) : UpsertReported r origin (r.upsertWithOriginAt a t origin) := by
  rcases upsertWithOriginAt_cases r a t origin with ⟨h,he⟩|⟨e,h,hp,he⟩|⟨e,h,hp,he⟩ <;> rw [he]
  · constructor <;>
      simp only [RegistryUpsert.inserted.injEq,AgentEvent.joined.injEq,List.append_cancel_left_eq,
        List.cons.injEq,and_true,reduceCtorEq,exists_false,List.append_right_eq_self,false_and,
        implies_true]
  · constructor <;>
      simp only [store_refresh h,reduceCtorEq,List.self_eq_append_right,
        RegistryUpsert.refreshed.injEq,exists_eq',and_self,implies_true]
  · constructor <;>
      simp only [RegistryUpsert.updated.injEq,AgentEvent.updated.injEq,List.append_cancel_left_eq,
        List.cons.injEq,and_true,reduceCtorEq,exists_false,List.append_right_eq_self,false_and,
        implies_true]

/-- After any run from an empty registry the events rebuild the map up to the
observation times and form lifecycles for every identifier; any further step
appends events that carry the records as they stood before it, and the result
of any further upsert names the event it sends. -/
theorem log_replays_registry (ttl : Duration) (ops : List RegistryOp) :
    let r := runOps (Registry.new ttl) ops
    (∀ id : String, (replayEvents r.events)[id]?.map AgentInfo.payload=
      r.inner[id]?.map AgentInfo.payload) ∧
    (∀ id : String, ∃ rest, kindsAbout id (r.events.map eventChange) ++ rest ∈ lifecycle) ∧
    (∀ op : RegistryOp, ∃ sent, (RegistryOp.run r op).events=r.events ++ sent ∧
      (∀ previous current origin, AgentEvent.updated previous current origin ∈ sent →
        r.inner[current.id]?=some previous) ∧
      ∀ agent origin reason, AgentEvent.left agent origin reason ∈ sent →
        r.inner[agent.id]?=some agent) ∧
    ∀ (a : AgentAnnouncement) (t : Instant),
      UpsertReported r .localOrigin (r.upsertLocal a t) ∧
      UpsertReported r .remoteOrigin (r.upsertRemote a t) := by
  intro r
  have hr : Journaled r := Journaled.runOps ttl ops
  refine ⟨fun id => ?_,fun id => hr.journal.kinds_prefix id,fun op => ?_,fun a t =>
    ⟨upsert_reported r a t .localOrigin,upsert_reported r a t .remoteOrigin⟩⟩
  · have hstore := store_replayEvents r.events
    rw [hr.journal.replay_eq] at hstore
    exact congrFun hstore id
  · obtain ⟨sent,ht⟩ := run_transition hr.keyed op
    refine ⟨sent,ht.events,fun previous current origin he => ?_,fun agent origin reason he => ?_⟩
    · exact ht.exact _ he
    · exact ht.exact _ he

end MeshPresence.RegistryJournal
