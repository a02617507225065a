import MeshPresence.AgentWire

/-!
# The registry of discovered agents and its event log

The registry is a hash map from agent identifiers to records. Every mutator
runs under the write lock, so it is one step here; the clock reading and the
iteration order that it meets are arguments. Events go to a broadcast channel;
the log records what was sent, whether or not anyone was subscribed, and the
capacity and lag of the channel are outside this module.
-/

namespace MeshPresence.AgentRegistry

open FiniteMaps AgentTypes

/-- Where a registry event came from. -/
inductive EventOrigin where
  /-- The local node. -/
  | localOrigin
  /-- A discovered remote peer. -/
  | remoteOrigin
  deriving DecidableEq

/-- Why an agent left the registry. -/
inductive DepartureReason where
  /-- Explicit removal. -/
  | graceful
  /-- Eviction after the TTL. -/
  | expired
  deriving DecidableEq

/-- Registry event with full snapshots. -/
inductive AgentEvent where
  /-- A new agent was added. -/
  | joined (agent : AgentInfo) (origin : EventOrigin)
  /-- An advertised property of a known agent changed. -/
  | updated (previous current : AgentInfo) (origin : EventOrigin)
  /-- An agent was removed. -/
  | left (agent : AgentInfo) (origin : EventOrigin) (reason : DepartureReason)
  deriving DecidableEq

/-- Primary snapshot of an event. -/
def AgentEvent.agent : AgentEvent → AgentInfo
  | .joined agent _ => agent
  | .updated _ current _ => current
  | .left agent _ _ => agent

/-- Origin of an event. -/
def AgentEvent.origin : AgentEvent → EventOrigin
  | .joined _ origin => origin
  | .updated _ _ origin => origin
  | .left _ origin _ => origin

/-- Earlier snapshot of an update event. -/
def AgentEvent.previous : AgentEvent → Option AgentInfo
  | .updated previous _ _ => some previous
  | _ => none

/-- Reason of a leave event. -/
def AgentEvent.departureReason : AgentEvent → Option DepartureReason
  | .left _ _ reason => some reason
  | _ => none

/-- Result of an upsert. -/
inductive RegistryUpsert where
  /-- A new agent was inserted. -/
  | inserted (agent : AgentInfo)
  /-- An advertised field changed. -/
  | updated (previous current : AgentInfo)
  /-- Only the observation time changed. -/
  | refreshed (agent : AgentInfo)
  deriving DecidableEq

/-- Contents of the hash map; its iteration order is not part of it. -/
abbrev AgentMap := Std.ExtTreeMap String AgentInfo

/-- Iteration orders of the hash map. -/
abbrev AgentOrder := Iteration String AgentInfo

/-- Registry state and the events sent so far, oldest first. -/
structure Registry where
  /-- Records by agent identifier. -/
  inner : AgentMap
  /-- Age beyond which records are evicted. -/
  ttl : Duration
  /-- Events handed to the broadcast channel. -/
  events : List AgentEvent
  deriving DecidableEq

/-- Empty registry. -/
def Registry.new (ttl : Duration) : Registry := { inner := ∅, ttl, events := [] }

/-- Hand an event to the broadcast channel. -/
def Registry.send (r : Registry) (event : AgentEvent) : Registry :=
  { r with events := r.events ++ [event] }

/-- Insert, replace or refresh the record of an announcement. -/
def Registry.upsertWithOriginAt (r : Registry) (announcement : AgentAnnouncement)
    (seenAt : Instant) (origin : EventOrigin) : RegistryUpsert × Registry :=
  let incoming := intoAgentInfo announcement seenAt
  match r.inner[incoming.id]? with
  | some existing =>
    if samePayloadAs existing incoming then
      let refreshed := refreshLastSeen existing seenAt
      (.refreshed refreshed,{ r with inner := r.inner.insert incoming.id refreshed })
    else
      let r := { r with inner := r.inner.insert incoming.id incoming }
      (.updated existing incoming,r.send (.updated existing incoming origin))
  | none =>
    let r := { r with inner := r.inner.insert incoming.id incoming }
    (.inserted incoming,r.send (.joined incoming origin))

/-- Upsert of the local agent. -/
def Registry.upsertLocal (r : Registry) (announcement : AgentAnnouncement) (now : Instant) :
    RegistryUpsert × Registry := r.upsertWithOriginAt announcement now .localOrigin

/-- Upsert of a remote agent. -/
def Registry.upsertRemote (r : Registry) (announcement : AgentAnnouncement) (now : Instant) :
    RegistryUpsert × Registry := r.upsertWithOriginAt announcement now .remoteOrigin

/-- Remove a record by identifier and report the leave. -/
def Registry.removeWithOrigin (r : Registry) (agentId : String) (origin : EventOrigin)
    (reason : DepartureReason) : Option AgentInfo × Registry :=
  match r.inner[agentId]? with
  | some agent =>
    let r := { r with inner := r.inner.erase agentId }
    (some agent,r.send (.left agent origin reason))
  | none => (none,r)

/-- Removal of the local agent. -/
def Registry.removeLocal (r : Registry) (agentId : String) : Option AgentInfo × Registry :=
  r.removeWithOrigin agentId .localOrigin .graceful

/-- Removal of a remote agent. -/
def Registry.removeRemote (r : Registry) (agentId : String) : Option AgentInfo × Registry :=
  r.removeWithOrigin agentId .remoteOrigin .graceful

/-- Remove the first record of the traversal that carries an instance name. -/
def Registry.removeRemoteByInstanceName (r : Registry) (order : AgentOrder)
    (instanceName : String) : Option AgentInfo × Registry :=
  match (order.entries r.inner).find? fun entry => entry.2.instanceName=instanceName with
  | some (agentId,_) => r.removeWithOrigin agentId .remoteOrigin .graceful
  | none => (none,r)

/-- Remove one stale identifier, when it is still present, and report it. -/
def evictOne (state : List AgentInfo × Registry) (agentId : String) : List AgentInfo × Registry :=
  match state.2.inner[agentId]? with
  | some agent =>
    let r := { state.2 with inner := state.2.inner.erase agentId }
    (state.1 ++ [agent],r.send (.left agent .remoteOrigin .expired))
  | none => state

/-- Identifiers of the stale records in the order of the traversal. -/
def Registry.staleIds (r : Registry) (order : AgentOrder) (now : Instant) : List String :=
  ((order.entries r.inner).filter fun entry => isStale entry.2 now r.ttl).map Prod.fst

/-- Collect the stale identifiers, then remove them one by one. -/
def Registry.evictStaleAt (r : Registry) (order : AgentOrder) (now : Instant) :
    List AgentInfo × Registry :=
  (r.staleIds order now).foldl evictOne ([],r)

/-- The records that satisfy a predicate, sorted by identifier. -/
def Registry.query (r : Registry) (order : AgentOrder) (predicate : AgentInfo → Bool) :
    List AgentInfo :=
  (((order.entries r.inner).map Prod.snd).filter predicate).insertionSort
    fun left right => left.id ≤ right.id

/-- All records, sorted by identifier. -/
def Registry.list (r : Registry) (order : AgentOrder) : List AgentInfo := r.query order fun _ => true

/-- The three outcomes of an upsert, with the condition of each. -/
theorem upsertWithOriginAt_cases (r : Registry) (a : AgentAnnouncement) (t : Instant)
    (origin : EventOrigin) :
    (r.inner[a.agentId]?=none ∧ r.upsertWithOriginAt a t origin=
      (.inserted (intoAgentInfo a t),
        { r with inner := r.inner.insert a.agentId (intoAgentInfo a t)
                 events := r.events ++ [.joined (intoAgentInfo a t) origin] })) ∨
    (∃ existing, r.inner[a.agentId]?=some existing ∧ existing.payload=a ∧
      r.upsertWithOriginAt a t origin=(.refreshed (refreshLastSeen existing t),
        { r with inner := r.inner.insert a.agentId (refreshLastSeen existing t) })) ∨
    (∃ existing, r.inner[a.agentId]?=some existing ∧ existing.payload ≠ a ∧
      r.upsertWithOriginAt a t origin=(.updated existing (intoAgentInfo a t),
        { r with inner := r.inner.insert a.agentId (intoAgentInfo a t)
                 events := r.events ++ [.updated existing (intoAgentInfo a t) origin] })) := by
  cases h : r.inner[a.agentId]? with
  | none =>
    refine Or.inl ⟨rfl,?_⟩
    simp only [Registry.upsertWithOriginAt,intoAgentInfo_id,h,Registry.send]
  | some existing =>
    refine Or.inr ?_
    have hiff := samePayloadAs_iff existing (intoAgentInfo a t)
    rw [payload_intoAgentInfo] at hiff
    by_cases hp : existing.payload=a
    · refine Or.inl ⟨existing,rfl,hp,?_⟩
      simp only [Registry.upsertWithOriginAt,intoAgentInfo_id,h,hiff.mpr hp,if_true]
    · refine Or.inr ⟨existing,rfl,hp,?_⟩
      have hs : samePayloadAs existing (intoAgentInfo a t)=false :=
        Bool.eq_false_iff.mpr fun hs => hp (hiff.mp hs)
      simp only [Registry.upsertWithOriginAt,intoAgentInfo_id,h,hs,Bool.false_eq_true,if_false,
        Registry.send]

/-- An upsert changes no other record. -/
theorem upsertWithOriginAt_other (r : Registry) {a : AgentAnnouncement} (t : Instant)
    (origin : EventOrigin) {id : String} (h : a.agentId ≠ id) :
    (r.upsertWithOriginAt a t origin).2.inner[id]?=r.inner[id]? := by
  rcases upsertWithOriginAt_cases r a t origin with ⟨-,he⟩|⟨e,-,-,he⟩|⟨e,-,-,he⟩ <;>
    rw [he] <;> exact getElem?_insert_ne r.inner _ h

/-- After an upsert the record carries the announcement and the clock reading. -/
theorem upsertWithOriginAt_same (r : Registry) (a : AgentAnnouncement) (t : Instant)
    (origin : EventOrigin) :
    (r.upsertWithOriginAt a t origin).2.inner[a.agentId]?=some (intoAgentInfo a t) := by
  rcases upsertWithOriginAt_cases r a t origin with ⟨-,he⟩|⟨e,-,hp,he⟩|⟨e,-,-,he⟩ <;> rw [he]
  · exact Std.ExtTreeMap.getElem?_insert_self
  · cases hp
    exact Std.ExtTreeMap.getElem?_insert_self
  · exact Std.ExtTreeMap.getElem?_insert_self

/-- Removal by identifier leaves every other record alone. -/
theorem removeWithOrigin_other (r : Registry) {agentId id : String} (origin : EventOrigin)
    (reason : DepartureReason) (h : agentId ≠ id) :
    (r.removeWithOrigin agentId origin reason).2.inner[id]?=r.inner[id]? := by
  unfold Registry.removeWithOrigin
  split
  · exact getElem?_erase_ne r.inner h
  · rfl

/-- Removal by identifier leaves no record under it. -/
theorem removeWithOrigin_same (r : Registry) (agentId : String) (origin : EventOrigin)
    (reason : DepartureReason) :
    (r.removeWithOrigin agentId origin reason).2.inner[agentId]?=none := by
  unfold Registry.removeWithOrigin
  split
  · exact Std.ExtTreeMap.getElem?_erase_self
  · next h => exact h

/-- Removal by instance name removes one record that carries the name, or none
when no record carries it. -/
theorem removeRemoteByInstanceName_cases (r : Registry) (order : AgentOrder) (name : String) :
    ((∀ (id : String) (agent : AgentInfo), r.inner[id]?=some agent → agent.instanceName ≠ name) ∧
      r.removeRemoteByInstanceName order name=(none,r)) ∨
    ∃ (id : String) (agent : AgentInfo), r.inner[id]?=some agent ∧ agent.instanceName=name ∧
      r.removeRemoteByInstanceName order name=r.removeWithOrigin id .remoteOrigin .graceful := by
  cases h : (order.entries r.inner).find? fun entry => entry.2.instanceName=name with
  | none =>
    refine Or.inl ⟨fun id agent hid => ?_,by simp only [Registry.removeRemoteByInstanceName,h]⟩
    exact of_decide_eq_false (order.find_none h hid)
  | some entry =>
    obtain ⟨hid,hname⟩ := order.find_some h
    exact Or.inr ⟨entry.1,entry.2,hid,of_decide_eq_true hname,
      by simp only [Registry.removeRemoteByInstanceName,h]⟩

/-- Removal by identifier adds and changes no record. -/
theorem removeWithOrigin_subset (r : Registry) {agentId id : String} {agent : AgentInfo}
    {origin : EventOrigin} {reason : DepartureReason}
    (h : (r.removeWithOrigin agentId origin reason).2.inner[id]?=some agent) :
    r.inner[id]?=some agent := by
  unfold Registry.removeWithOrigin at h
  split at h
  · exact getElem?_of_erase h
  · exact h

/-- Removal by instance name adds and changes no record. -/
theorem removeRemoteByInstanceName_subset (r : Registry) {order : AgentOrder} {name id : String}
    {agent : AgentInfo} (h : (r.removeRemoteByInstanceName order name).2.inner[id]?=some agent) :
    r.inner[id]?=some agent := by
  rcases removeRemoteByInstanceName_cases r order name with ⟨-,he⟩|⟨removed,_,-,-,he⟩ <;>
    rw [he] at h
  · exact h
  · exact removeWithOrigin_subset r h

/-- Evicting one identifier adds and changes no record. -/
theorem evictOne_subset (state : List AgentInfo × Registry) {agentId id : String}
    {agent : AgentInfo} (h : (evictOne state agentId).2.inner[id]?=some agent) :
    state.2.inner[id]?=some agent := by
  unfold evictOne at h
  split at h
  · exact getElem?_of_erase h
  · exact h

/-- An identifier is swept exactly when its record is stale. -/
theorem mem_staleIds {r : Registry} {order : AgentOrder} {now : Instant} {id : String} :
    id ∈ r.staleIds order now ↔ ∃ agent, r.inner[id]?=some agent ∧ isStale agent now r.ttl=true := by
  unfold Registry.staleIds
  constructor
  · intro h
    obtain ⟨⟨key,agent⟩,hentry,rfl⟩ := List.mem_map.mp h
    obtain ⟨hmem,hstale⟩ := List.mem_filter.mp hentry
    exact ⟨agent,order.mem_entries.mp hmem,hstale⟩
  · rintro ⟨agent,hagent,hstale⟩
    exact List.mem_map.mpr ⟨(id,agent),List.mem_filter.mpr ⟨order.mem_entries.mpr hagent,hstale⟩,rfl⟩

/-- A sweep adds and changes no record. -/
theorem evictStaleAt_subset (r : Registry) {order : AgentOrder} {now : Instant} {id : String}
    {agent : AgentInfo} (h : (r.evictStaleAt order now).2.inner[id]?=some agent) :
    r.inner[id]?=some agent := by
  let Kept (state : List AgentInfo × Registry) : Prop :=
    state.2.inner[id]?=some agent → r.inner[id]?=some agent
  have hkept : Kept ((r.staleIds order now).foldl evictOne ([],r)) :=
    List.foldlRecOn _ evictOne (fun h => h) fun state ih _ _ h => ih (evictOne_subset state h)
  exact hkept h

end MeshPresence.AgentRegistry
