import MeshPresence.RegistryJournal

/-!
# Queries of the registry

Every query filters the records by a predicate and sorts them by identifier.
In a registry whose records are stored under their own identifiers the result
is the ascending listing of the stored records that satisfy the predicate,
whatever order the hash map yields them in. Compiling a regular expression and
searching a text with it are parameters.
-/

namespace MeshPresence.RegistryQueries

open TextOperations FiniteMaps AgentTypes AgentRegistry RegistryJournal

/-- Regular expressions as the queries use them. -/
structure RegexEngine where
  /-- Compiled regular expressions. -/
  Regex : Type
  /-- Compile a pattern; a failure explains itself. -/
  new : String → Except String Regex
  /-- Search a text for a match. -/
  isMatch : Regex → String → Bool

/-- The record of an identifier. -/
def get (r : Registry) (agentId : String) : Option AgentInfo := r.inner[agentId]?

/-- The records of a project. -/
def getAllByProject (r : Registry) (order : AgentOrder) (project : String) : List AgentInfo :=
  r.query order fun agent => agent.project=project

/-- The records of a branch. -/
def getAllByBranch (r : Registry) (order : AgentOrder) (branch : String) : List AgentInfo :=
  r.query order fun agent => agent.branch=branch

/-- The records of a project and a branch. -/
def getAllByProjectAndBranch (r : Registry) (order : AgentOrder) (project branch : String) :
    List AgentInfo :=
  r.query order fun agent => agent.project=project && agent.branch=branch

/-- The records of a status. -/
def getAllByStatus (r : Registry) (order : AgentOrder) (status : AgentStatus) : List AgentInfo :=
  r.query order fun agent => agent.status=status

/-- The records of a role. -/
def getAllByRole (r : Registry) (order : AgentOrder) (role : String) : List AgentInfo :=
  r.query order fun agent => agent.role=role

/-- The records whose metadata has a key. -/
def getAllWithMetadataKey (r : Registry) (order : AgentOrder) (key : String) : List AgentInfo :=
  r.query order fun agent => agent.metadata.contains key

/-- The records whose metadata has a value under a key. -/
def getAllByMetadata (r : Registry) (order : AgentOrder) (key value : String) : List AgentInfo :=
  r.query order fun agent => agent.metadata[key]?.any fun stored => stored=value

/-- The records whose metadata has a key with a prefix. -/
def getAllWithMetadataKeyPrefix (r : Registry) (order : AgentOrder) (start : String) :
    List AgentInfo :=
  r.query order fun agent => agent.metadata.keys.any fun key => startsWith key start

/-- The records whose metadata has a value with a prefix under a key. -/
def getAllByMetadataPrefix (r : Registry) (order : AgentOrder) (key start : String) :
    List AgentInfo :=
  r.query order fun agent => agent.metadata[key]?.any fun stored => startsWith stored start

/-- The records whose metadata has a value that matches a regular expression under a key. -/
def getAllByMetadataRegex (engine : RegexEngine) (r : Registry) (order : AgentOrder)
    (key pattern : String) : Except ZeroConfError (List AgentInfo) := do
  let regex ← (engine.new pattern).mapError (ZeroConfError.invalidMetadataRegex pattern)
  return r.query order fun agent =>
    agent.metadata[key]?.any fun stored => engine.isMatch regex stored

/-- The records that advertise a capability. -/
def getAllWithCapability (r : Registry) (order : AgentOrder) (capability : String) :
    List AgentInfo :=
  r.query order fun agent => hasCapability agent capability

/-- The registry holds a record. -/
def Stored (r : Registry) (agent : AgentInfo) : Prop := ∃ id : String, r.inner[id]?=some agent

/-- A query returns the stored records that satisfy its predicate. -/
@[simp] theorem mem_query {r : Registry} {order : AgentOrder} {predicate : AgentInfo → Bool}
    {agent : AgentInfo} :
    agent ∈ r.query order predicate ↔ Stored r agent ∧ predicate agent=true := by
  rw [Registry.query,List.mem_insertionSort,List.mem_filter]
  refine and_congr_left fun _ => ⟨fun h => ?_,fun h => ?_⟩
  · obtain ⟨⟨id,found⟩,hentry,rfl⟩ := List.mem_map.mp h
    exact ⟨id,order.mem_entries.mp hentry⟩
  · obtain ⟨id,hid⟩ := h
    exact List.mem_map.mpr ⟨(id,agent),order.mem_entries.mpr hid,rfl⟩

/-- The listing returns the stored records. -/
@[simp] theorem mem_list {r : Registry} {order : AgentOrder} {agent : AgentInfo} :
    agent ∈ r.list order ↔ Stored r agent := by
  rw [Registry.list,mem_query,and_iff_left rfl]

/-- A record is stored in a keyed registry exactly under its own identifier. -/
theorem stored_iff {r : Registry} (hk : KeyedById r.inner) {agent : AgentInfo} :
    Stored r agent ↔ get r agent.id=some agent := by
  refine ⟨fun h => ?_,fun h => ⟨agent.id,h⟩⟩
  obtain ⟨id,hid⟩ := h
  rw [get,hk id agent hid,hid]

/-- The identifiers of a keyed registry are its keys. -/
theorem id_of_mem_toList {m : AgentMap} (hk : KeyedById m) {entry : String × AgentInfo}
    (h : entry ∈ m.toList) : entry.2.id=entry.1 :=
  hk entry.1 entry.2 (Std.ExtTreeMap.mem_toList_iff_getElem?_eq_some.mp h)

/-- The listing of a map ascends strictly in the identifiers. -/
theorem pairwise_id_toList {m : AgentMap} (hk : KeyedById m) :
    (m.toList.map Prod.snd).Pairwise fun left right => left.id<right.id := by
  rw [List.pairwise_map]
  have hordered := Std.ExtTreeMap.ordered_keys_toList (t:=m)
  refine hordered.imp_of_mem fun {a b} ha hb hlt => ?_
  rw [id_of_mem_toList hk ha,id_of_mem_toList hk hb]
  exact compare_lt_iff_lt.mp hlt

/-- A query of a registry is the ascending listing of its records that satisfy the
predicate, whatever order the hash map yields them in. -/
theorem query_eq_toList {r : Registry} (hk : KeyedById r.inner) (order : AgentOrder)
    (predicate : AgentInfo → Bool) :
    r.query order predicate=(r.inner.toList.map Prod.snd).filter predicate := by
  have hperm : (r.query order predicate).Perm ((r.inner.toList.map Prod.snd).filter predicate) :=
    (List.perm_insertionSort _ _).trans (((order.perm r.inner).map Prod.snd).filter predicate)
  have hsorted : (r.query order predicate).Pairwise fun left right => left.id ≤ right.id :=
    List.pairwise_insertionSort _ _
  have hlisted := ((pairwise_id_toList hk).imp fun h => le_of_lt h).filter predicate
  refine List.Perm.eq_of_pairwise (fun a b ha hb hab hba => ?_) hsorted hlisted hperm
  have hfirst := (stored_iff hk).mp (mem_query.mp ha).1
  have hsecond := (stored_iff hk).mp (mem_query.mp (hperm.mem_iff.mpr hb)).1
  rw [le_antisymm hab hba,hsecond] at hfirst
  exact (Option.some.inj hfirst).symm

/-- A listing of a registry is its records in ascending order of their identifiers. -/
theorem list_eq_toList {r : Registry} (hk : KeyedById r.inner) (order : AgentOrder) :
    r.list order=r.inner.toList.map Prod.snd := by
  rw [Registry.list,query_eq_toList hk,List.filter_true]

/-- A query selects from any listing of the registry. -/
theorem query_eq_filter {r : Registry} (hk : KeyedById r.inner) (order order' : AgentOrder)
    (predicate : AgentInfo → Bool) : r.query order predicate=(r.list order').filter predicate := by
  rw [query_eq_toList hk,list_eq_toList hk]

end MeshPresence.RegistryQueries
