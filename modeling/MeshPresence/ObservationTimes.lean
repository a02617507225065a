import MeshPresence.ExactEviction
import MeshPresence.GuardedRuns

/-!
# Observation times under concurrent upserts

An upsert reads the clock before it waits for the write lock and stores the
reading when it holds the lock, also over a later one. Calls are therefore two
steps here, with any steps of other calls, sweeps and removals between them;
for every identifier the readings that were stored since its insertion are kept
as history. In a run whose upserts never meet a newer record, the observation
time of a record is the latest of its history and never goes back.
-/

namespace MeshPresence.ObservationTimes

open FiniteMaps GuardedRuns AgentTypes AgentRegistry RegistryJournal RegistryQueries ExactEviction

/-- An upsert that has read the clock and waits for the write lock. -/
structure WaitingUpsert where
  /-- Announcement to store. -/
  announcement : AgentAnnouncement
  /-- Local or remote upsert. -/
  origin : EventOrigin
  /-- Clock reading. -/
  seenAt : Instant

/-- A registry that concurrent calls share. -/
structure SharedRegistry where
  /-- The monotonic clock. -/
  clock : Instant
  /-- The registry behind the lock. -/
  registry : Registry
  /-- Upserts that wait for the lock. -/
  upserts : List WaitingUpsert
  /-- Clock readings of the sweeps that wait for the lock. -/
  sweeps : List Instant
  /-- Readings that were stored for an identifier since its insertion. -/
  applied : String → List Instant

/-- An empty registry at a time. -/
def SharedRegistry.start (ttl : Duration) (clock : Instant) : SharedRegistry :=
  { clock, registry := Registry.new ttl, upserts := [], sweeps := [], applied := fun _ => [] }

/-- The steps of concurrent calls. -/
inductive Action where
  /-- Time passes. -/
  | tick (elapsed : Duration)
  /-- `upsert_local` or `upsert_remote` reads the clock. -/
  | readUpsert (announcement : AgentAnnouncement) (origin : EventOrigin)
  /-- A waiting upsert takes the lock and stores its announcement. -/
  | storeUpsert (i : ℕ)
  /-- `evict_stale` reads the clock. -/
  | readSweep
  /-- A waiting sweep takes the lock and evicts. -/
  | storeSweep (i : ℕ) (order : AgentOrder)
  /-- `remove_local` or `remove_remote`. -/
  | remove (agentId : String) (origin : EventOrigin)
  /-- `remove_remote_by_instance_name`. -/
  | removeByInstanceName (order : AgentOrder) (instanceName : String)

/-- The history of an identifier after one more reading was stored for it. -/
def SharedRegistry.extended (s : SharedRegistry) (call : WaitingUpsert) : List Instant :=
  if s.registry.inner[call.announcement.agentId]?.isSome then
    s.applied call.announcement.agentId ++ [call.seenAt]
  else [call.seenAt]

/-- One step; a call that does not wait cannot take the lock. -/
def step (s : SharedRegistry) : Action → Option SharedRegistry
  | .tick elapsed => some { s with clock := s.clock+elapsed }
  | .readUpsert announcement origin =>
    some { s with upserts := s.upserts ++ [{ announcement, origin, seenAt := s.clock }] }
  | .storeUpsert i =>
    s.upserts[i]?.map fun call =>
      { s with
        registry := (s.registry.upsertWithOriginAt call.announcement call.seenAt call.origin).2
        upserts := s.upserts.eraseIdx i
        applied := Function.update s.applied call.announcement.agentId (s.extended call) }
  | .readSweep => some { s with sweeps := s.sweeps ++ [s.clock] }
  | .storeSweep i order =>
    s.sweeps[i]?.map fun now =>
      { s with registry := (s.registry.evictStaleAt order now).2, sweeps := s.sweeps.eraseIdx i }
  | .remove agentId origin =>
    some { s with registry := (s.registry.removeWithOrigin agentId origin .graceful).2 }
  | .removeByInstanceName order instanceName =>
    some { s with registry := (s.registry.removeRemoteByInstanceName order instanceName).2 }

/-- An upsert that takes the lock meets no record of its agent with a later time. -/
def MeetsNothingNewer (s : SharedRegistry) : Action → Prop
  | .storeUpsert i => ∀ call ∈ s.upserts[i]?,
      ∀ agent ∈ s.registry.inner[call.announcement.agentId]?, agent.lastSeen ≤ call.seenAt
  | _ => True

instance (s : SharedRegistry) (action : Action) : Decidable (MeetsNothingNewer s action) := by
  cases action <;> unfold MeetsNothingNewer <;> infer_instance

/-- The record of an identifier is there. -/
def Present (id : String) (s : SharedRegistry) (_ : Action) : Prop :=
  s.registry.inner[id]?.isSome=true

instance (id : String) (s : SharedRegistry) (action : Action) : Decidable (Present id s action) :=
  inferInstanceAs (Decidable (_=true))

/-- What one step does to the record of an identifier and to its history. -/
inductive RecordMove (s : SharedRegistry) (action : Action) (s' : SharedRegistry) (id : String) :
    Prop where
  /-- Nothing. -/
  | kept (record : s'.registry.inner[id]?=s.registry.inner[id]?) (history : s'.applied id=s.applied id)
  /-- The record is removed or absent. -/
  | gone (record : s'.registry.inner[id]?=none)
  /-- An upsert of the agent stores its announcement and its reading. -/
  | stored (i : ℕ) (call : WaitingUpsert) (source : action=.storeUpsert i)
      (waits : s.upserts[i]?=some call) (about : call.announcement.agentId=id)
      (record : s'.registry.inner[id]?=some (intoAgentInfo call.announcement call.seenAt))
      (history : s'.applied id=s.extended call)

/-- A removal keeps a record or leaves none. -/
theorem removed_or_kept (r : Registry) (agentId id : String) (origin : EventOrigin)
    (reason : DepartureReason) :
    (r.removeWithOrigin agentId origin reason).2.inner[id]?=r.inner[id]? ∨
      (r.removeWithOrigin agentId origin reason).2.inner[id]?=none := by
  by_cases he : agentId=id
  · exact Or.inr (he ▸ removeWithOrigin_same r agentId origin reason)
  · exact Or.inl (removeWithOrigin_other r origin reason he)

/-- Every step keeps, removes or stores the record of an identifier. -/
theorem step_record {s s' : SharedRegistry} {action : Action} (h : step s action=some s')
    (id : String) : RecordMove s action s' id := by
  cases action with
  | tick elapsed =>
    cases h
    exact .kept rfl rfl
  | readUpsert announcement origin =>
    cases h
    exact .kept rfl rfl
  | storeUpsert i =>
    obtain ⟨call,hcall,rfl⟩ := Option.map_eq_some_iff.mp h
    by_cases hid : call.announcement.agentId=id
    · subst hid
      exact .stored i call rfl hcall rfl (upsertWithOriginAt_same _ _ _ _) (Function.update_self ..)
    · exact .kept (upsertWithOriginAt_other _ _ _ hid) (Function.update_of_ne (Ne.symm hid) ..)
  | readSweep =>
    cases h
    exact .kept rfl rfl
  | storeSweep i order =>
    obtain ⟨now,-,rfl⟩ := Option.map_eq_some_iff.mp h
    have hswept := getElem?_evictStaleAt s.registry order now id
    cases hrecord : s.registry.inner[id]? with
    | none =>
      rw [hrecord,Option.filter_none] at hswept
      exact .gone hswept
    | some agent =>
      rw [hrecord,Option.filter_some] at hswept
      split at hswept
      · exact .kept (hswept.trans hrecord.symm) rfl
      · exact .gone hswept
  | remove agentId origin =>
    cases h
    rcases removed_or_kept s.registry agentId id origin .graceful with hkept|hgone
    · exact .kept hkept rfl
    · exact .gone hgone
  | removeByInstanceName order name =>
    cases h
    rcases removeRemoteByInstanceName_cases s.registry order name with ⟨-,he⟩|⟨found,_,-,-,he⟩
    · exact .kept (by rw [he]) rfl
    · rcases removed_or_kept s.registry found id .remoteOrigin .graceful with hkept|hgone
      · exact .kept (by rw [he]; exact hkept) rfl
      · exact .gone (by rw [he]; exact hgone)

/-- Every step keeps the records under their identifiers. -/
theorem step_keyed {s s' : SharedRegistry} {action : Action} (h : step s action=some s')
    (hk : KeyedById s.registry.inner) : KeyedById s'.registry.inner := by
  intro id agent hagent
  cases step_record h id with
  | kept record history => exact hk id agent (record.symm.trans hagent)
  | gone record => cases record.symm.trans hagent
  | stored i call source waits about record history =>
    cases record.symm.trans hagent
    exact about

/-- The observation times of the records are the latest of their histories. -/
structure Latest (s : SharedRegistry) : Prop where
  /-- Records are stored under their own identifiers. -/
  keyed : KeyedById s.registry.inner
  /-- The observation time is the greatest reading since the insertion. -/
  greatest : ∀ (id : String) (agent : AgentInfo), s.registry.inner[id]?=some agent →
    IsGreatest {t | t ∈ s.applied id} agent.lastSeen

/-- An empty registry has no records. -/
theorem Latest.start (ttl : Duration) (clock : Instant) :
    Latest (SharedRegistry.start ttl clock) where
  keyed := (Journaled.new ttl).keyed
  greatest := fun id agent h => by
    simp only [SharedRegistry.start,Registry.new,Std.ExtTreeMap.getElem?_empty,reduceCtorEq] at h

/-- Storing a reading that is not older than the record makes it the greatest. -/
theorem Latest.extended {s : SharedRegistry} (h : Latest s) {call : WaitingUpsert}
    (hnewer : ∀ agent ∈ s.registry.inner[call.announcement.agentId]?,
      agent.lastSeen ≤ call.seenAt) : IsGreatest {t | t ∈ s.extended call} call.seenAt := by
  unfold SharedRegistry.extended
  cases hrecord : s.registry.inner[call.announcement.agentId]? with
  | none =>
    rw [Option.isSome_none,if_neg Bool.false_ne_true]
    exact ⟨List.mem_singleton_self _,fun t ht => le_of_eq (List.mem_singleton.mp ht)⟩
  | some agent =>
    rw [Option.isSome_some,if_pos rfl]
    have hbound := (h.greatest _ agent hrecord).2
    have hle : agent.lastSeen ≤ call.seenAt := hnewer agent hrecord
    refine ⟨List.mem_append_right _ (List.mem_singleton_self _),fun t ht => ?_⟩
    rcases List.mem_append.mp ht with hold|hnew
    · exact (hbound hold).trans hle
    · exact le_of_eq (List.mem_singleton.mp hnew)

/-- A step that meets nothing newer keeps the observation times the latest. -/
theorem Latest.step {s s' : SharedRegistry} {action : Action} (h : Latest s)
    (hg : MeetsNothingNewer s action) (hs : step s action=some s') : Latest s' where
  keyed := step_keyed hs h.keyed
  greatest := fun id agent hagent => by
    cases step_record hs id with
    | kept record history =>
      rw [history]
      exact h.greatest id agent (record.symm.trans hagent)
    | gone record => cases record.symm.trans hagent
    | stored i call source waits about record history =>
      cases record.symm.trans hagent
      rw [source] at hg
      rw [history]
      exact h.extended (hg call waits)

/-- A step that meets nothing newer sets no observation time back. -/
theorem step_forward {s s' : SharedRegistry} {action : Action} (hg : MeetsNothingNewer s action)
    (hs : step s action=some s') {id : String} {before after : AgentInfo}
    (hbefore : s.registry.inner[id]?=some before) (hafter : s'.registry.inner[id]?=some after) :
    before.lastSeen ≤ after.lastSeen := by
  cases step_record hs id with
  | kept record history =>
    cases hbefore.symm.trans (record.symm.trans hafter)
    exact le_rfl
  | gone record => cases record.symm.trans hafter
  | stored i call source waits about record history =>
    cases record.symm.trans hafter
    rw [source] at hg
    exact hg call waits before (about ▸ hbefore)

/-- An upsert that takes the lock sets the observation time of a record back exactly when it
meets a newer one. -/
theorem stored_forward_iff {s s' : SharedRegistry} {i : ℕ} {call : WaitingUpsert}
    (hcall : s.upserts[i]?=some call) (hs : step s (.storeUpsert i)=some s')
    {before after : AgentInfo}
    (hbefore : s.registry.inner[call.announcement.agentId]?=some before)
    (hafter : s'.registry.inner[call.announcement.agentId]?=some after) :
    before.lastSeen ≤ after.lastSeen ↔ MeetsNothingNewer s (.storeUpsert i) := by
  refine ⟨fun hle => ?_,fun hg => step_forward hg hs hbefore hafter⟩
  rw [step,hcall,Option.map_some,Option.some.injEq] at hs
  subst hs
  rw [upsertWithOriginAt_same,Option.some.injEq] at hafter
  subst hafter
  rintro other hother agent hagent
  cases hcall.symm.trans hother
  cases hbefore.symm.trans hagent
  exact hle

/-- While a record stays, guarded steps never set its observation time back. -/
theorem run_forward {s t : SharedRegistry} {acts : List Action} {id : String}
    (hg : Guarded step MeetsNothingNewer s acts) (hp : Guarded step (Present id) s acts)
    (h : exec step s acts=some t) {before after : AgentInfo}
    (hbefore : s.registry.inner[id]?=some before) (hafter : t.registry.inner[id]?=some after) :
    before.lastSeen ≤ after.lastSeen := by
  induction acts generalizing s before with
  | nil =>
    cases h
    cases hbefore.symm.trans hafter
    exact le_rfl
  | cons action acts ih =>
    obtain ⟨u,hu,hrest⟩ := exec_cons h
    obtain ⟨hfirst,hguarded⟩ := hg.cons hu
    obtain ⟨-,hpresent⟩ := hp.cons hu
    have hstays : ∃ middle, u.registry.inner[id]?=some middle := by
      cases acts with
      | nil =>
        cases hrest
        exact ⟨after,hafter⟩
      | cons next acts => exact Option.isSome_iff_exists.mp hpresent.1
    obtain ⟨middle,hmiddle⟩ := hstays
    exact (step_forward hfirst hu hbefore hmiddle).trans (ih hguarded hpresent hrest hmiddle)

/-- A sweep at any time spares the agents with a recent reading in their history. -/
theorem Latest.spares {s : SharedRegistry} (h : Latest s) {order : AgentOrder} {now : Instant}
    {agent : AgentInfo} (hagent : agent ∈ (s.registry.evictStaleAt order now).1) {t : Instant}
    (ht : t ∈ s.applied agent.id) : s.registry.ttl<now-t := by
  obtain ⟨⟨id,hid⟩,hstale⟩ := mem_evictStaleAt.mp hagent
  rw [h.keyed id agent hid] at ht
  have hbound : t ≤ agent.lastSeen := (h.greatest id agent hid).2 ht
  exact (of_decide_eq_true hstale).trans_le (Nat.sub_le_sub_left hbound now)

/-- In a run whose upserts never meet a newer record, every observation time is the latest
reading stored since the insertion, no sweep evicts an agent with a recent reading, and as
long as a record stays its observation time never goes back. -/
theorem last_seen_never_back (ttl : Duration) (clock : Instant) {acts : List Action}
    {s : SharedRegistry} (hg : Guarded step MeetsNothingNewer (SharedRegistry.start ttl clock) acts)
    (h : exec step (SharedRegistry.start ttl clock) acts=some s) :
    (∀ (id : String) (agent : AgentInfo), s.registry.inner[id]?=some agent →
      IsGreatest {t | t ∈ s.applied id} agent.lastSeen) ∧
    (∀ (order : AgentOrder) (now : Instant), ∀ agent ∈ (s.registry.evictStaleAt order now).1,
      ∀ t ∈ s.applied agent.id, ¬now-t ≤ s.registry.ttl) ∧
    ∀ (later : List Action) (s' : SharedRegistry), Guarded step MeetsNothingNewer s later →
      exec step s later=some s' → ∀ (id : String) (before after : AgentInfo),
      Guarded step (Present id) s later → s.registry.inner[id]?=some before →
      s'.registry.inner[id]?=some after → before.lastSeen ≤ after.lastSeen := by
  have hlatest : Latest s := invariant_of_guarded Latest
    (fun _ _ _ hl hguard hs => hl.step hguard hs) hg h (Latest.start ttl clock)
  refine ⟨hlatest.greatest,fun order now agent hagent t ht => ?_,
    fun later s' hlater hrun id before after hpresent hbefore hafter =>
      run_forward hlater hpresent hrun hbefore hafter⟩
  exact not_le.mpr (hlatest.spares hagent ht)

/-- Two upserts of one agent overlap and are stored in the order of their readings; a sweep
follows. -/
def overlapping : List Action :=
  [.readUpsert sampleAnnouncement .remoteOrigin,.tick 10,
    .readUpsert sampleAnnouncement .localOrigin,.storeUpsert 0,.storeUpsert 0,.tick 5,.readSweep,
    .storeSweep 0 Iteration.ascending]

/-- The registry after these steps. -/
def overlapped : SharedRegistry :=
  (exec step (SharedRegistry.start 10 0) overlapping).get (by decide +kernel)

/-- The record carries the later reading, which is the latest of its history. -/
theorem last_seen_never_back_overlapping :
    ∃ agent, overlapped.registry.inner["agent-local"]?=some agent ∧ agent.lastSeen=10 ∧
      IsGreatest {t | t ∈ overlapped.applied "agent-local"} agent.lastSeen := by
  have hrecord : (overlapped.registry.inner["agent-local"]?).map AgentInfo.lastSeen=some 10 := by
    decide +kernel
  obtain ⟨agent,hagent,hseen⟩ := Option.map_eq_some_iff.mp hrecord
  have hguarded : Guarded step MeetsNothingNewer (SharedRegistry.start 10 0) overlapping := by
    decide +kernel
  have hrun : exec step (SharedRegistry.start 10 0) overlapping=some overlapped :=
    (Option.some_get _).symm
  have h := last_seen_never_back 10 0 hguarded hrun
  exact ⟨agent,hagent,hseen,h.1 "agent-local" agent hagent⟩

/-- Two upserts of one agent read the clock ten apart, and the second is stored first. -/
def overtaking : List Action :=
  [.readUpsert sampleAnnouncement .remoteOrigin,.tick 10,
    .readUpsert sampleAnnouncement .localOrigin,.storeUpsert 1]

/-- The registry after the second upsert. -/
def overtaken : SharedRegistry :=
  (exec step (SharedRegistry.start 10 0) overtaking).get (by decide +kernel)

/-- The registry after the first upsert as well. -/
def setBack : SharedRegistry := (exec step overtaken [.storeUpsert 0]).get (by decide +kernel)

/-- The first upsert sets the observation time back from ten to zero, although ten is in the
history, and a sweep at eleven with a TTL of ten evicts the agent. -/
theorem overtaken_upsert_sets_back :
    exec step (SharedRegistry.start 10 0) overtaking=some overtaken ∧
    exec step overtaken [.storeUpsert 0]=some setBack ∧
    overtaken.registry.inner["agent-local"]?.map AgentInfo.lastSeen=some 10 ∧
    setBack.registry.inner["agent-local"]?.map AgentInfo.lastSeen=some 0 ∧
    setBack.applied "agent-local"=[10,0] ∧
    (exec step setBack [.tick 1,.readSweep,.storeSweep 0 Iteration.ascending]).map
      (fun s => (s.clock,s.registry.inner["agent-local"]?))=some (11,none) := by
  refine ⟨(Option.some_get _).symm,(Option.some_get _).symm,?_⟩
  decide +kernel

end MeshPresence.ObservationTimes
