import MeshPresence.ExactEviction
import MeshPresence.Reorderings

/-!
# Queries are exact and forget the order of independent operations

A query returns the records that satisfy its predicate, once each and in
ascending order of their identifiers. Timed upserts, removals by identifier and
sweeps act on the record of every agent by an effect that reads this record
alone. The content of the registry is therefore determined by the histories of
the agents, and operations on different agents may be exchanged.
-/

namespace MeshPresence.QueryHistories

open FiniteMaps AgentTypes AgentRegistry RegistryJournal RegistryQueries ExactEviction Reorderings

/-- What the queries of a registry return, for every order of the hash map. -/
structure QueriesExactly (r : Registry) : Prop where
  /-- The entries that satisfy the predicate, and nothing else. -/
  exact : ∀ (order : AgentOrder) (predicate : AgentInfo → Bool) (id : String) (agent : AgentInfo),
    (r.inner[id]?=some agent ∧ predicate agent=true) ↔
      (agent ∈ r.query order predicate ∧ agent.id=id)
  /-- No record is returned twice. -/
  once : ∀ (order : AgentOrder) (predicate : AgentInfo → Bool), (r.query order predicate).Nodup
  /-- The identifiers ascend strictly. -/
  ascending : ∀ (order : AgentOrder) (predicate : AgentInfo → Bool),
    (r.query order predicate).Pairwise fun left right => left.id<right.id
  /-- Every order of the hash map gives the same result. -/
  stable : ∀ (order order' : AgentOrder) (predicate : AgentInfo → Bool),
    r.query order predicate=r.query order' predicate
  /-- A project and a branch select the common part of what each of them selects. -/
  common : ∀ (order order' order'' : AgentOrder) (project branch : String),
    getAllByProjectAndBranch r order project branch=
      (getAllByProject r order' project).filter fun agent =>
        agent ∈ getAllByBranch r order'' branch

/-- A query of a keyed registry ascends strictly in the identifiers. -/
theorem pairwise_id_query {r : Registry} (hk : KeyedById r.inner) (order : AgentOrder)
    (predicate : AgentInfo → Bool) :
    (r.query order predicate).Pairwise fun left right => left.id<right.id := by
  rw [query_eq_toList hk]
  exact (pairwise_id_toList hk).filter predicate

/-- Two conditions select the common part of what each of them selects. -/
theorem query_and {r : Registry} (hk : KeyedById r.inner) (order order' order'' : AgentOrder)
    (first second : AgentInfo → Bool) :
    (r.query order fun agent => first agent && second agent)=
      (r.query order' first).filter fun agent => agent ∈ r.query order'' second := by
  rw [query_eq_filter hk order order,query_eq_filter hk order' order,List.filter_filter]
  refine List.filter_congr fun agent hagent => ?_
  have hstored : Stored r agent := mem_list.mp hagent
  have hmem : agent ∈ r.query order'' second ↔ second agent=true := by
    rw [mem_query,and_iff_right hstored]
  rw [Bool.and_comm]
  refine congrArg (· && first agent) ?_
  rw [Bool.eq_iff_iff,decide_eq_true_iff,hmem]

/-- A keyed registry answers queries exactly. -/
theorem queriesExactly {r : Registry} (hk : KeyedById r.inner) : QueriesExactly r where
  exact := fun order predicate id agent => by
    rw [mem_query,stored_iff hk,RegistryQueries.get]
    constructor
    · rintro ⟨hid,hp⟩
      have he := hk id agent hid
      exact ⟨⟨he ▸ hid,hp⟩,he⟩
    · rintro ⟨⟨hid,hp⟩,he⟩
      exact ⟨he ▸ hid,hp⟩
  once := fun order predicate => (pairwise_id_query hk order predicate).imp fun h =>
    ne_of_apply_ne AgentInfo.id (ne_of_lt h)
  ascending := pairwise_id_query hk
  stable := fun order order' predicate => by rw [query_eq_toList hk,query_eq_toList hk]
  common := fun order order' order'' project branch => query_and hk order order' order'' _ _

/-- What an operation does to the record of one agent. -/
inductive RecordChange where
  /-- The agent was announced and observed. -/
  | observed (announcement : AgentAnnouncement) (seenAt : Instant)
  /-- The agent was removed. -/
  | removed
  /-- The registry was swept. -/
  | swept (now : Instant)

/-- The record after a change, in a registry with a given TTL. -/
def RecordChange.apply (ttl : Duration) (record : Option AgentInfo) :
    RecordChange → Option AgentInfo
  | .observed announcement seenAt => some (intoAgentInfo announcement seenAt)
  | .removed => none
  | .swept now => record.filter fun agent => !isStale agent now ttl

/-- The agent that an upsert or a removal by identifier is about. -/
def agentOf : RegistryOp → Option String
  | .upsertLocal announcement _ => some announcement.agentId
  | .upsertRemote announcement _ => some announcement.agentId
  | .removeLocal agentId => some agentId
  | .removeRemote agentId => some agentId
  | .removeRemoteByInstanceName _ _ => none
  | .evictStaleAt _ _ => none

/-- The change that an operation makes to the record of an agent, when it makes one.
Removals by instance name have no such description. -/
def changeOf (id : String) : RegistryOp → Option RecordChange
  | .upsertLocal announcement now =>
    if announcement.agentId=id then some (.observed announcement now) else none
  | .upsertRemote announcement now =>
    if announcement.agentId=id then some (.observed announcement now) else none
  | .removeLocal agentId => if agentId=id then some .removed else none
  | .removeRemote agentId => if agentId=id then some .removed else none
  | .removeRemoteByInstanceName _ _ => none
  | .evictStaleAt _ now => some (.swept now)

/-- Timed upserts, removals by identifier and sweeps. -/
def AddressedOrSweep : RegistryOp → Prop
  | .removeRemoteByInstanceName _ _ => False
  | _ => True

/-- The same upsert or removal by identifier, or sweeps at the same time that may meet
the hash map in different orders. -/
inductive SameOp : RegistryOp → RegistryOp → Prop
  /-- An upsert or a removal by identifier. -/
  | addressed {op : RegistryOp} {id : String} (h : agentOf op=some id) : SameOp op op
  /-- Two sweeps at the same time. -/
  | sweep (order order' : AgentOrder) (now : Instant) :
      SameOp (.evictStaleAt order now) (.evictStaleAt order' now)

/-- Upserts or removals by identifier of two different agents. -/
def DifferentAgents (first second : RegistryOp) : Prop :=
  ∃ id id', agentOf first=some id ∧ agentOf second=some id' ∧ id ≠ id'

/-- An operation on an agent changes no record of another agent. -/
theorem changeOf_eq_none {op : RegistryOp} {agentId id : String} (h : agentOf op=some agentId)
    (hne : agentId ≠ id) : changeOf id op=none := by
  cases op with
  | upsertLocal a now => exact if_neg (Option.some.inj h ▸ hne)
  | upsertRemote a now => exact if_neg (Option.some.inj h ▸ hne)
  | removeLocal x => exact if_neg (Option.some.inj h ▸ hne)
  | removeRemote x => exact if_neg (Option.some.inj h ▸ hne)
  | removeRemoteByInstanceName order name => rfl
  | evictStaleAt order now => cases h

/-- An upsert acts on the record of its agent only. -/
theorem upsert_acts (r : Registry) (a : AgentAnnouncement) (t : Instant) (origin : EventOrigin)
    (id : String) : (r.upsertWithOriginAt a t origin).2.inner[id]?=
      if a.agentId=id then some (intoAgentInfo a t) else r.inner[id]? := by
  split
  · next h => rw [←h,upsertWithOriginAt_same]
  · next h => exact upsertWithOriginAt_other r t origin h

/-- A removal by identifier acts on the record of its agent only. -/
theorem removeWithOrigin_acts (r : Registry) (agentId : String) (origin : EventOrigin)
    (reason : DepartureReason) (id : String) :
    (r.removeWithOrigin agentId origin reason).2.inner[id]?=
      if agentId=id then none else r.inner[id]? := by
  split
  · next h => rw [←h,removeWithOrigin_same]
  · next h => exact removeWithOrigin_other r origin reason h

/-- Every operation but a removal by instance name acts on the agents separately. -/
theorem run_actsLocally (ttl : Duration) :
    ActsLocally (fun r : Registry => r.ttl=ttl) AddressedOrSweep
      (fun r (id : String) => r.inner[id]?) RegistryOp.run changeOf (RecordChange.apply ttl) where
  keeps := fun r op h => (run_ttl r op).trans h
  acts := fun r op id h hop => by
    cases op with
    | upsertLocal a t =>
      rw [changeOf,apply_ite (Option.elim · _ _)]
      exact upsert_acts r a t .localOrigin id
    | upsertRemote a t =>
      rw [changeOf,apply_ite (Option.elim · _ _)]
      exact upsert_acts r a t .remoteOrigin id
    | removeLocal agentId =>
      rw [changeOf,apply_ite (Option.elim · _ _)]
      exact removeWithOrigin_acts r agentId .localOrigin .graceful id
    | removeRemote agentId =>
      rw [changeOf,apply_ite (Option.elim · _ _)]
      exact removeWithOrigin_acts r agentId .remoteOrigin .graceful id
    | removeRemoteByInstanceName order name => exact False.elim hop
    | evictStaleAt order now =>
      have hacts := getElem?_evictStaleAt r order now id
      rw [h] at hacts
      exact hacts

/-- Interchangeable operations are no removals by instance name. -/
theorem SameOp.addressedOrSweep {op op' : RegistryOp} (h : SameOp op op') :
    AddressedOrSweep op ∧ AddressedOrSweep op' := by
  cases h with
  | addressed h =>
    cases op with
    | removeRemoteByInstanceName order name => cases h
    | _ => exact ⟨trivial,trivial⟩
  | sweep order order' now => exact ⟨trivial,trivial⟩

/-- Operations on agents are no removals by instance name. -/
theorem DifferentAgents.addressedOrSweep {op op' : RegistryOp} (h : DifferentAgents op op') :
    AddressedOrSweep op ∧ AddressedOrSweep op' := by
  obtain ⟨id,id',h,h',-⟩ := h
  exact ⟨(SameOp.addressed h).addressedOrSweep.1,(SameOp.addressed h').addressedOrSweep.1⟩

/-- Interchangeable operations change every record alike. -/
theorem SameOp.changeOf_eq {op op' : RegistryOp} (h : SameOp op op') (id : String) :
    changeOf id op=changeOf id op' := by
  cases h with
  | addressed h => rfl
  | sweep order order' now => rfl

/-- No record is changed by operations on two different agents. -/
theorem DifferentAgents.changeOf_eq_none {op op' : RegistryOp} (h : DifferentAgents op op')
    (id : String) : changeOf id op=none ∨ changeOf id op'=none := by
  obtain ⟨agentId,agentId',h,h',hne⟩ := h
  by_cases he : agentId=id
  · exact Or.inr (QueryHistories.changeOf_eq_none h' fun he' => hne (he.trans he'.symm))
  · exact Or.inl (QueryHistories.changeOf_eq_none h he)

/-- The histories of the agents determine the map. -/
theorem inner_runOps_of_histories {ops ops' : List RegistryOp}
    (hops : ∀ op ∈ ops, AddressedOrSweep op) (hops' : ∀ op ∈ ops', AddressedOrSweep op)
    (h : ∀ id, history changeOf id ops=history changeOf id ops') (r : Registry) :
    (runOps r ops).inner=(runOps r ops').inner := by
  apply Std.ExtTreeMap.ext_getElem?
  intro id
  have hrun := (run_actsLocally r.ttl).run rfl hops id
  have hrun' := (run_actsLocally r.ttl).run rfl hops' id
  rw [←h id] at hrun'
  exact hrun.trans hrun'.symm

/-- Reordered operations build the same map. -/
theorem inner_runOps_reordered {ops ops' : List RegistryOp}
    (h : Reordered SameOp DifferentAgents ops ops') (r : Registry) :
    (runOps r ops).inner=(runOps r ops').inner := by
  obtain ⟨hops,hops'⟩ := h.forall_mem (fun _ _ hs => hs.addressedOrSweep) fun _ _ hd =>
    hd.addressedOrSweep
  refine inner_runOps_of_histories hops hops' (fun id => ?_) r
  exact h.history_eq (fun _ _ hs => hs.changeOf_eq id) fun _ _ hd => hd.changeOf_eq_none id

/-- Queries of every reachable registry are exact, and operations on different agents
may be exchanged without a change of the listing. -/
theorem queries_forget_order (ttl : Duration) :
    (∀ ops : List RegistryOp, QueriesExactly (runOps (Registry.new ttl) ops)) ∧
    ∀ ops ops' : List RegistryOp, Reordered SameOp DifferentAgents ops ops' →
      ∀ order order' : AgentOrder, (runOps (Registry.new ttl) ops).list order=
        (runOps (Registry.new ttl) ops').list order' := by
  have hkeyed : ∀ ops : List RegistryOp, KeyedById (runOps (Registry.new ttl) ops).inner :=
    fun ops => (Journaled.runOps ttl ops).keyed
  refine ⟨fun ops => queriesExactly (hkeyed ops),fun ops ops' h order order' => ?_⟩
  have hinner := inner_runOps_reordered h (Registry.new ttl)
  rw [list_eq_toList (hkeyed ops),list_eq_toList (hkeyed ops'),hinner]

/-- Two agents are announced in either order before a sweep that meets the hash map in
either order. -/
theorem queries_forget_order_announcements :
    (runOps (Registry.new 120)
      [.upsertRemote { sampleAnnouncement with agentId := "agent-1" } 0,
        .upsertRemote { sampleAnnouncement with agentId := "agent-2" } 5,
        .evictStaleAt .ascending 9]).list .ascending=
    (runOps (Registry.new 120)
      [.upsertRemote { sampleAnnouncement with agentId := "agent-2" } 5,
        .upsertRemote { sampleAnnouncement with agentId := "agent-1" } 0,
        .evictStaleAt (.startingWith "agent-2") 9]).list (.startingWith "agent-2") :=
  (queries_forget_order 120).2 _ _
    (.swap ⟨"agent-1","agent-2",rfl,rfl,by decide⟩ (.cons (.sweep _ _ _) .nil)) _ _

end MeshPresence.QueryHistories
