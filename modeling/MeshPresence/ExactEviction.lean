import MeshPresence.RegistryQueries

/-!
# A sweep evicts exactly the stale records

A sweep collects the stale identifiers in the order of the hash map and then
removes them one by one. Removing distinct stored entries returns each of them
once, reports each of them once, and leaves every other record as it was. The
sweep is therefore exact for every iteration order, and a later sweep at the
same or an earlier time finds nothing left to do.
-/

namespace MeshPresence.ExactEviction

open FiniteMaps AgentTypes AgentRegistry RegistryJournal RegistryQueries

/-- The report of an evicted record. -/
def expiry (agent : AgentInfo) : AgentEvent := .left agent .remoteOrigin .expired

/-- Evicting a stored record deletes it, returns it and reports it. -/
theorem evictOne_some {state : List AgentInfo × Registry} {id : String} {agent : AgentInfo}
    (h : state.2.inner[id]?=some agent) :
    evictOne state id=(state.1 ++ [agent],{ state.2 with
      inner := state.2.inner.erase id, events := state.2.events ++ [expiry agent] }) := by
  simp only [evictOne,h,Registry.send,expiry]

/-- What removing a list of entries one by one leaves behind. -/
structure Evicted (entries : List (String × AgentInfo)) (state swept : List AgentInfo × Registry) :
    Prop where
  /-- The records are returned in the order of the list. -/
  returned : swept.1=state.1 ++ entries.map Prod.snd
  /-- Each record is reported once, and nothing else is. -/
  events : swept.2.events=state.2.events ++ (entries.map Prod.snd).map expiry
  /-- The entries are gone and the others are as they were. -/
  inner : ∀ id : String, swept.2.inner[id]?=
    if id ∈ entries.map Prod.fst then none else state.2.inner[id]?
  /-- The TTL is as it was. -/
  ttl : swept.2.ttl=state.2.ttl

/-- Removing stored entries with distinct keys removes exactly these. -/
theorem evict_entries (entries : List (String × AgentInfo)) (state : List AgentInfo × Registry)
    (hnodup : (entries.map Prod.fst).Nodup)
    (hstored : ∀ entry ∈ entries, state.2.inner[entry.1]?=some entry.2) :
    Evicted entries state ((entries.map Prod.fst).foldl evictOne state) := by
  induction entries generalizing state with
  | nil =>
    refine ⟨(List.append_nil _).symm,(List.append_nil _).symm,fun id => ?_,rfl⟩
    exact (if_neg List.not_mem_nil).symm
  | cons first entries ih =>
    obtain ⟨id,agent⟩ := first
    obtain ⟨hnew,hrest⟩ := List.nodup_cons.mp hnodup
    have hfirst := hstored (id,agent) List.mem_cons_self
    have hlater : ∀ entry ∈ entries, (evictOne state id).2.inner[entry.1]?=some entry.2 := by
      intro entry hentry
      have hne : id ≠ entry.1 := fun he =>
        hnew (List.mem_map.mpr ⟨entry,hentry,he.symm⟩)
      rw [evictOne_some hfirst,getElem?_erase_ne _ hne]
      exact hstored entry (List.mem_cons_of_mem _ hentry)
    have hswept := ih (evictOne state id) hrest hlater
    rw [List.map_cons,List.foldl_cons]
    refine ⟨?_,?_,fun k => ?_,?_⟩
    · rw [hswept.returned,evictOne_some hfirst,List.append_assoc]
      rfl
    · rw [hswept.events,evictOne_some hfirst,List.append_assoc]
      rfl
    · rw [hswept.inner,evictOne_some hfirst,getElem?_erase,List.map_cons]
      by_cases hk : k ∈ entries.map Prod.fst
      · rw [if_pos hk,if_pos (List.mem_cons_of_mem id hk)]
      · by_cases he : id=k
        · rw [if_neg hk,if_pos he,if_pos (he ▸ List.mem_cons_self)]
        · have hne : k ∉ id :: entries.map Prod.fst := fun hm =>
            (List.mem_cons.mp hm).elim (fun hi => he hi.symm) hk
          rw [if_neg hk,if_neg he,if_neg hne]
    · rw [hswept.ttl,evictOne_some hfirst]

/-- The stale entries in the order of the traversal. -/
def staleEntries (r : Registry) (order : AgentOrder) (now : Instant) : List (String × AgentInfo) :=
  (order.entries r.inner).filter fun entry => isStale entry.2 now r.ttl

/-- The stale entries are the stored records that are stale. -/
theorem mem_staleEntries {r : Registry} {order : AgentOrder} {now : Instant} {id : String}
    {agent : AgentInfo} :
    (id,agent) ∈ staleEntries r order now ↔
      r.inner[id]?=some agent ∧ isStale agent now r.ttl=true := by
  rw [staleEntries,List.mem_filter,order.mem_entries]

/-- A sweep removes exactly the stale entries. -/
theorem evictStaleAt_evicted (r : Registry) (order : AgentOrder) (now : Instant) :
    Evicted (staleEntries r order now) ([],r) (r.evictStaleAt order now) := by
  refine evict_entries (staleEntries r order now) ([],r) ?_ fun entry hentry => ?_
  · exact (order.nodup_keys r.inner).sublist (List.filter_sublist.map Prod.fst)
  · exact (mem_staleEntries.mp hentry).1

/-- A sweep returns the stored records that are stale. -/
theorem mem_evictStaleAt {r : Registry} {order : AgentOrder} {now : Instant} {agent : AgentInfo} :
    agent ∈ (r.evictStaleAt order now).1 ↔ Stored r agent ∧ isStale agent now r.ttl=true := by
  rw [(evictStaleAt_evicted r order now).returned,List.nil_append,List.mem_map]
  constructor
  · rintro ⟨⟨id,found⟩,hentry,rfl⟩
    obtain ⟨hstored,hstale⟩ := mem_staleEntries.mp hentry
    exact ⟨⟨id,hstored⟩,hstale⟩
  · rintro ⟨⟨id,hstored⟩,hstale⟩
    exact ⟨(id,agent),mem_staleEntries.mpr ⟨hstored,hstale⟩,rfl⟩

/-- A sweep reports the records that it returns, in the same order. -/
theorem evictStaleAt_events (r : Registry) (order : AgentOrder) (now : Instant) :
    (r.evictStaleAt order now).2.events=
      r.events ++ (r.evictStaleAt order now).1.map expiry := by
  have h := evictStaleAt_evicted r order now
  rw [h.events,h.returned,List.nil_append]

/-- After a sweep the records that are not stale remain, unchanged. -/
theorem getElem?_evictStaleAt (r : Registry) (order : AgentOrder) (now : Instant) (id : String) :
    (r.evictStaleAt order now).2.inner[id]?=
      r.inner[id]?.filter fun agent => !isStale agent now r.ttl := by
  rw [(evictStaleAt_evicted r order now).inner]
  cases h : r.inner[id]? with
  | none =>
    rw [Option.filter_none]
    exact ite_self none
  | some agent =>
    have hmem : id ∈ (staleEntries r order now).map Prod.fst ↔ isStale agent now r.ttl=true := by
      rw [List.mem_map]
      constructor
      · rintro ⟨⟨key,found⟩,hentry,rfl⟩
        obtain ⟨hfound,hstale⟩ := mem_staleEntries.mp hentry
        rw [h] at hfound
        cases hfound
        exact hstale
      · intro hstale
        exact ⟨(id,agent),mem_staleEntries.mpr ⟨h,hstale⟩,rfl⟩
    simp only [hmem,Option.filter_some,Bool.not_eq_true']
    cases isStale agent now r.ttl <;> rfl

/-- A sweep that finds the record of an identifier fresh, or finds none, keeps it and returns
nothing about the identifier. -/
theorem evictStaleAt_keeps {r : Registry} (hk : KeyedById r.inner) {id : String} {now : Instant}
    (h : ∀ agent : AgentInfo, r.inner[id]?=some agent → isStale agent now r.ttl=false)
    (order : AgentOrder) :
    (r.evictStaleAt order now).2.inner[id]?=r.inner[id]? ∧
      ∀ agent ∈ (r.evictStaleAt order now).1, agent.id ≠ id := by
  refine ⟨?_,fun agent hagent hid => ?_⟩
  · rw [getElem?_evictStaleAt]
    cases hrecord : r.inner[id]? with
    | none => rfl
    | some agent => rw [Option.filter_some,h agent hrecord,Bool.not_false,if_pos rfl]
  · obtain ⟨⟨key,hstored⟩,hstale⟩ := mem_evictStaleAt.mp hagent
    rw [h agent ((hk key agent hstored).symm.trans hid ▸ hstored)] at hstale
    cases hstale

/-- A keyed registry returns no record twice. -/
theorem nodup_evictStaleAt {r : Registry} (hk : KeyedById r.inner) (order : AgentOrder)
    (now : Instant) : (r.evictStaleAt order now).1.Nodup := by
  rw [(evictStaleAt_evicted r order now).returned,List.nil_append]
  refine List.Nodup.of_map AgentInfo.id ?_
  have hids : ((staleEntries r order now).map Prod.snd).map AgentInfo.id=
      (staleEntries r order now).map Prod.fst := by
    rw [List.map_map]
    exact List.map_congr_left fun entry hentry => hk _ _ (mem_staleEntries.mp hentry).1
  rw [hids]
  exact (order.nodup_keys r.inner).sublist (List.filter_sublist.map Prod.fst)

/-- A sweep that finds nothing stale does nothing. -/
theorem evictStaleAt_fresh {r : Registry} {now : Instant}
    (h : ∀ agent, Stored r agent → isStale agent now r.ttl=false) (order : AgentOrder) :
    r.evictStaleAt order now=([],r) := by
  have hids : r.staleIds order now=[] := by
    rw [List.eq_nil_iff_forall_not_mem]
    intro id hid
    obtain ⟨agent,hagent,hstale⟩ := mem_staleIds.mp hid
    rw [h agent ⟨id,hagent⟩] at hstale
    cases hstale
  rw [Registry.evictStaleAt,hids,List.foldl_nil]

/-- No operation changes the TTL. -/
theorem run_ttl (r : Registry) (op : RegistryOp) : (RegistryOp.run r op).ttl=r.ttl := by
  have hupsert : ∀ a t origin, (r.upsertWithOriginAt a t origin).2.ttl=r.ttl := by
    intro a t origin
    rcases upsertWithOriginAt_cases r a t origin with ⟨-,he⟩|⟨_,-,-,he⟩|⟨_,-,-,he⟩ <;> rw [he]
  have hremove : ∀ id origin reason, (r.removeWithOrigin id origin reason).2.ttl=r.ttl := by
    intro id origin reason
    unfold Registry.removeWithOrigin
    split <;> rfl
  cases op with
  | upsertLocal a t => exact hupsert a t .localOrigin
  | upsertRemote a t => exact hupsert a t .remoteOrigin
  | removeLocal id => exact hremove id .localOrigin .graceful
  | removeRemote id => exact hremove id .remoteOrigin .graceful
  | removeRemoteByInstanceName order name =>
    rcases removeRemoteByInstanceName_cases r order name with ⟨-,he⟩|⟨id,_,-,-,he⟩ <;>
      rw [RegistryOp.run,he]
    exact hremove id .remoteOrigin .graceful
  | evictStaleAt order now => exact (evictStaleAt_evicted r order now).ttl

/-- Every run keeps the TTL of the registry. -/
theorem runOps_ttl (r : Registry) (ops : List RegistryOp) : (runOps r ops).ttl=r.ttl := by
  induction ops generalizing r with
  | nil => rfl
  | cons op ops ih =>
    have hstep := ih (RegistryOp.run r op)
    rw [run_ttl] at hstep
    exact hstep

/-- A sweep at a given time did what it is for. -/
structure SweepsExactly (ttl : Duration) (r : Registry) (now : Instant)
    (swept : List AgentInfo × Registry) : Prop where
  /-- No record is returned twice. -/
  once : swept.1.Nodup
  /-- The records that were not observed for more than the TTL are returned. -/
  returned : ∀ agent, agent ∈ swept.1 ↔ Stored r agent ∧ ttl<now-agent.lastSeen
  /-- These are removed and every other record is left as it is. -/
  kept : ∀ (id : String) (agent : AgentInfo), swept.2.inner[id]?=some agent ↔
    r.inner[id]?=some agent ∧ now-agent.lastSeen ≤ ttl
  /-- Each returned record is reported once as a remote expiry, and nothing else is. -/
  reported : swept.2.events=
    r.events ++ swept.1.map fun agent => .left agent .remoteOrigin .expired
  /-- A second sweep at the same or an earlier time does nothing. -/
  settled : ∀ (order : AgentOrder) (earlier : Instant), earlier ≤ now →
    swept.2.evictStaleAt order earlier=([],swept.2)

/-- Eviction is exact in every reachable registry, for every TTL, time and iteration order. -/
theorem sweeps_exactly (ttl : Duration) (ops : List RegistryOp) (order : AgentOrder)
    (now : Instant) :
    let r := runOps (Registry.new ttl) ops
    SweepsExactly ttl r now (r.evictStaleAt order now) := by
  intro r
  have hk : KeyedById r.inner := (Journaled.runOps ttl ops).keyed
  have httl : r.ttl=ttl := runOps_ttl (Registry.new ttl) ops
  have hkept : ∀ (id : String) (agent : AgentInfo),
      (r.evictStaleAt order now).2.inner[id]?=some agent ↔
        r.inner[id]?=some agent ∧ now-agent.lastSeen ≤ ttl := by
    intro id agent
    rw [getElem?_evictStaleAt,Option.filter_eq_some_iff,isStale,httl]
    simp only [gt_iff_lt,Bool.not_eq_true',decide_eq_false_iff_not,not_lt]
  refine ⟨nodup_evictStaleAt hk order now,fun agent => ?_,hkept,evictStaleAt_events r order now,
    fun order' earlier hle => evictStaleAt_fresh (fun agent hagent => ?_) order'⟩
  · rw [mem_evictStaleAt,isStale,httl,decide_eq_true_eq]
  · obtain ⟨id,hid⟩ := hagent
    have hfresh := ((hkept id agent).mp hid).2
    rw [(evictStaleAt_evicted r order now).ttl,httl,isStale,decide_eq_false_iff_not,not_lt]
    exact (Nat.sub_le_sub_right hle agent.lastSeen).trans hfresh

end MeshPresence.ExactEviction
