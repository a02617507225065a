import MeshPresence.MeshEffects
import MeshPresence.RegistryJournal
import MeshPresence.GuardedRuns
import MeshPresence.ValidatedConfig

/-!
# The network cannot touch the local entry

Every copy of the local announcement keeps the identifier and the instance name
of the configuration, so the record under the local identifier always carries the
local instance name. A resolved service with the local identifier is skipped, and
a removal by another full name never meets the local record. A discovery-only
node publishes nothing and never holds the local identifier.
-/

namespace MeshPresence.LocalEntry

open TextOperations FiniteMaps FallibleSteps GuardedRuns AgentTypes AgentConfig AgentWire
open AgentRegistry AgentListener AnnouncementInvariant RegistryJournal ValidatedConfig MeshRuntime
open MeshEffects

/-- An announcement with the identity that a configuration gives the local agent. -/
def IsLocal (config : ZeroConfConfig) (a : AgentAnnouncement) : Prop :=
  a.agentId=config.agentId ∧ a.instanceName=config.instanceName

/-- Successful updates keep the identity. -/
theorem IsLocal.update {config : ZeroConfConfig} {a b : AgentAnnouncement} (h : IsLocal config a)
    {update : LocalUpdate} (hb : update.apply a=.ok b) : IsLocal config b := by
  cases update with
  | status status =>
    cases hb
    exact h
  | project project | branch branch | capabilities capabilities | removeCapability capability =>
    obtain ⟨_,-,hb⟩ := bind_ok hb
    cases hb
    exact h
  | metadata key value | removeMetadata key =>
    obtain ⟨_,-,hb⟩ := bind_ok hb
    obtain ⟨-,hb⟩ := reject_ok hb
    cases hb
    exact h
  | addCapability capability =>
    obtain ⟨_,-,hb⟩ := bind_ok hb
    split at hb <;> cases hb <;> exact h

/-- Mutators keep the identity. -/
theorem IsLocal.apply {config : ZeroConfConfig} {a : AgentAnnouncement} (h : IsLocal config a)
    (mac : Mac) (mutator : Mutator) : IsLocal config (mutator.apply mac a) := by
  cases mutator with
  | update call =>
    cases hu : call.apply a with
    | error e => simpa only [Mutator.apply,hu,Except.toOption,Option.getD_none] using h
    | ok b => simpa only [Mutator.apply,hu,Except.toOption,Option.getD_some] using h.update hu
  | applySharedSecretAuth auth => exact h

/-- Signing when configured keeps the identity. -/
theorem IsLocal.sign {config : ZeroConfConfig} {s : Shared} (h : IsLocal config s.localAgent)
    (mac : Mac) (auth : Option SharedSecretAuth) : IsLocal config (s.sign mac auth).localAgent := by
  cases auth with
  | none => exact h
  | some auth => exact h.apply mac (.applySharedSecretAuth auth)

/-- The announcement of a validated configuration has its identity, unchanged by
the trimming of the constructor. -/
theorem localAnnouncement_isLocal {config : ZeroConfConfig} (h : Validated config)
    {a : AgentAnnouncement} (ha : config.localAnnouncement=.ok a) : IsLocal config a := by
  have hsound := sound_of_validated h
  obtain ⟨-,hname,hagent,-⟩ := new_ok ha
  exact ⟨hagent.trans hsound.agentId.1,hname.trans hsound.instanceName.1⟩

/-- The shared state before the start-up signs. -/
def unsigned (config : ZeroConfConfig) (a : AgentAnnouncement) : Shared where
  localAgent := a
  registry := Registry.new config.ttl
  wire := []
  taken := 0
  sections := []

/-- The node that start-up begins with. -/
theorem init_ok {mac : Mac} {config : ZeroConfConfig} {m : Mesh}
    (h : Mesh.init mac config=.ok m) :
    ∃ a, config.localAnnouncement=.ok a ∧
      let shared := (unsigned config a).sign mac config.sharedSecretAuth
      m={ config, shared := shared.copied, heartbeat := .notSpawned, calls := []
          start := if config.advertiseLocal then .announce shared.snapshot else .listenOnly
          listening := false, sweeping := false, shutdown := .idle } := by
  obtain ⟨a,ha,h⟩ := bind_ok h
  cases h
  exact ⟨a,ha,rfl⟩

/-- Signing when configured changes only the local announcement and the record of
write sections. -/
theorem sign_frame (mac : Mac) (s : Shared) (auth : Option SharedSecretAuth) :
    (s.sign mac auth).registry=s.registry ∧ (s.sign mac auth).wire=s.wire ∧
      (s.sign mac auth).taken=s.taken := by
  cases auth <;> exact ⟨rfl,rfl,rfl⟩

/-- Start-up begins with the first copy to announce, or without work. -/
theorem init_pendings {mac : Mac} {config : ZeroConfConfig} {m : Mesh}
    (h : Mesh.init mac config=.ok m) :
    m.pendings=if config.advertiseLocal then
      [.announce { announcement := m.shared.localAgent, ticket := 0 }] else [] := by
  obtain ⟨a,-,rfl⟩ := init_ok h
  have hticket : ((unsigned config a).sign mac config.sharedSecretAuth).taken=0 :=
    (sign_frame mac _ _).2.2
  cases hadvertise : config.advertiseLocal <;>
    simp [Mesh.pendings,StartPhase.pending,TickPhase.pending,callWork,Shared.snapshot,
      Shared.copied,hticket]

/-- A browse event neither touches the local record nor sends an event about it,
when the local record carries the local instance name. -/
theorem handle_local (mac : Mac) (listener : Listener) {r : Registry} (hk : KeyedById r.inner)
    (hentry : ∀ agent : AgentInfo, r.inner[listener.localAgentId]?=some agent →
      agent.instanceName=listener.localInstanceName) (event : BrowseEvent) :
    KeyedById (listener.handle mac r event).inner ∧
    (listener.handle mac r event).inner[listener.localAgentId]?=r.inner[listener.localAgentId]? ∧
    ∃ sent, (listener.handle mac r event).events=r.events ++ sent ∧
      ∀ e ∈ sent, e.agent.id ≠ listener.localAgentId := by
  have hnothing : ∃ sent, r.events=r.events ++ sent ∧
      ∀ e ∈ sent, e.agent.id ≠ listener.localAgentId :=
    ⟨[],(List.append_nil _).symm,fun e he => absurd he List.not_mem_nil⟩
  rcases handle_cases mac listener r event with
    he|⟨service,now,a,-,ha,he⟩|⟨_,name,order,-,hname,he⟩ <;> rw [he]
  · exact ⟨hk,rfl,hnothing⟩
  · obtain ⟨-,hid,-⟩ := admits_some ha
    obtain ⟨_,ht⟩ := upsert_transition hk a now .remoteOrigin
    obtain ⟨sent,hevents,habout⟩ := upsert_events r a now .remoteOrigin
    refine ⟨ht.keyed,upsertWithOriginAt_other r now .remoteOrigin hid,sent,hevents,?_⟩
    intro e hm
    rwa [habout e hm]
  · rcases removeRemoteByInstanceName_cases r order name with ⟨-,he⟩|⟨id,agent,hid,hbears,he⟩ <;>
      rw [he]
    · exact ⟨hk,rfl,hnothing⟩
    · have hne : id ≠ listener.localAgentId := by
        rintro rfl
        exact hname (hbears.symm.trans (hentry agent hid))
      obtain ⟨_,ht⟩ := removeWithOrigin_transition hk id .remoteOrigin .graceful
      obtain ⟨sent,hevents,habout⟩ := removeWithOrigin_events hk id .remoteOrigin .graceful
      refine ⟨ht.keyed,removeWithOrigin_other r .remoteOrigin .graceful hne,sent,hevents,?_⟩
      intro e hm
      rwa [habout e hm]

/-- The copy that a piece of pending work is about. -/
def copyOf : Pending → Option Snapshot
  | .refresh => none
  | .announce snapshot => some snapshot
  | .upsert snapshot => some snapshot

/-- Everything a node holds for the local agent has the identity of the
configuration; a discovery-only node holds nothing. -/
structure LocalInvariant (config : ZeroConfConfig) (m : Mesh) : Prop where
  /-- The configuration is the one of the start-up. -/
  unchanged : m.config=config
  /-- The local announcement has the identity. -/
  localAgent : IsLocal config m.shared.localAgent
  /-- Every copy has the identity. -/
  copies : ∀ p ∈ m.pendings, ∀ snapshot, copyOf p=some snapshot →
    IsLocal config snapshot.announcement
  /-- Records are stored under their own identifiers. -/
  keyed : KeyedById m.shared.registry.inner
  /-- The local record carries the local instance name. -/
  entry : ∀ agent : AgentInfo, m.shared.registry.inner[config.agentId]?=some agent →
    agent.instanceName=config.instanceName
  /-- Without advertising there are no copies. -/
  noCopies : config.advertiseLocal=false → ∀ p ∈ m.pendings, copyOf p=none
  /-- Without advertising there is no heartbeat. -/
  noHeartbeat : config.advertiseLocal=false → m.heartbeat=.notSpawned
  /-- Without advertising there is no local record. -/
  noEntry : config.advertiseLocal=false → m.shared.registry.inner[config.agentId]?=none

section Steps

variable {mac : Mac} {config : ZeroConfConfig} {m m' : Mesh} {action : Action}
  {old new : Option Pending}

/-- Work that a copy needs is not pending on a discovery-only node. -/
theorem LocalInvariant.advertises (h : LocalInvariant config m) {p : Pending} (hp : p ∈ m.pendings)
    {snapshot : Snapshot} (hs : copyOf p=some snapshot) : config.advertiseLocal ≠ false := by
  intro hd
  rw [h.noCopies hd p hp] at hs
  cases hs

/-- A discovery-only node never spawns the heartbeat. -/
theorem LocalInvariant.step_noHeartbeat (h : LocalInvariant config m)
    (hs : step mac m action=some m') (hd : config.advertiseLocal=false) :
    m'.heartbeat=.notSpawned := by
  rcases step_notSpawned hs (h.noHeartbeat hd) with hn|⟨snapshot,hstart⟩
  · exact hn
  · have hp : Pending.upsert snapshot ∈ m.pendings :=
      mem_pendings.mpr (Or.inl (congrArg StartPhase.pending hstart))
    exact absurd hd (h.advertises hp rfl)

/-- Preservation, given what happens to the local announcement, to the registry
and to the copies. -/
theorem LocalInvariant.preserve (h : LocalInvariant config m) (hs : step mac m action=some m')
    (hlocal : IsLocal config m'.shared.localAgent) (hwork : Work m old new m')
    (hcopy : ∀ p, new=some p → ∀ snapshot, copyOf p=some snapshot →
      config.advertiseLocal=true ∧ IsLocal config snapshot.announcement)
    (hkeyed : KeyedById m'.shared.registry.inner)
    (hentry : ∀ agent : AgentInfo, m'.shared.registry.inner[config.agentId]?=some agent →
      m.shared.registry.inner[config.agentId]?=some agent ∨
      config.advertiseLocal=true ∧ agent.instanceName=config.instanceName) :
    LocalInvariant config m' where
  unchanged := (step_frame hs).config.trans h.unchanged
  localAgent := hlocal
  copies := fun p hp snapshot hsnapshot => by
    rcases hwork.only p hp with hp|hp
    · exact h.copies p hp snapshot hsnapshot
    · exact (hcopy p hp snapshot hsnapshot).2
  keyed := hkeyed
  entry := fun agent ha => (hentry agent ha).elim (h.entry agent) And.right
  noCopies := fun hd p hp => by
    rcases hwork.only p hp with hp|hp
    · exact h.noCopies hd p hp
    · cases hc : copyOf p with
      | none => rfl
      | some snapshot => exact absurd (hcopy p hp snapshot hc).1 (by rw [hd]; decide)
  noHeartbeat := h.step_noHeartbeat hs
  noEntry := fun hd => by
    cases ha : m'.shared.registry.inner[config.agentId]? with
    | none => rfl
    | some agent =>
      rcases hentry agent ha with hold|⟨hadvertise,-⟩
      · rw [h.noEntry hd] at hold
        cases hold
      · exact absurd hadvertise (by rw [hd]; decide)

/-- Preservation by a step that leaves the registry alone. -/
theorem LocalInvariant.preserve_registry (h : LocalInvariant config m)
    (hs : step mac m action=some m') (hlocal : IsLocal config m'.shared.localAgent)
    (hregistry : m'.shared.registry=m.shared.registry) (hwork : Work m old new m')
    (hcopy : ∀ p, new=some p → ∀ snapshot, copyOf p=some snapshot →
      config.advertiseLocal=true ∧ IsLocal config snapshot.announcement) :
    LocalInvariant config m' := by
  refine h.preserve hs hlocal hwork hcopy (hregistry ▸ h.keyed) fun agent ha => ?_
  rw [hregistry] at ha
  exact Or.inl ha

/-- Every step of a node keeps the invariant. -/
theorem LocalInvariant.step (h : LocalInvariant config m) (hs : step mac m action=some m') :
    LocalInvariant config m' := by
  have hnone : ∀ p : Pending, none=some p → ∀ snapshot, copyOf p=some snapshot →
      config.advertiseLocal=true ∧ IsLocal config snapshot.announcement := by
    intro p hp
    cases hp
  cases step_effect hs with
  | quiet shared work =>
    exact h.preserve_registry hs (shared ▸ h.localAgent) (shared ▸ rfl) work hnone
  | abandon snapshot error source shared work =>
    exact h.preserve_registry hs (shared ▸ h.localAgent) (shared ▸ rfl) work hnone
  | skip discovery shared work =>
    exact h.preserve_registry hs (shared ▸ h.localAgent) (shared ▸ rfl) work hnone
  | mutate i call source hcall succeeds shared work =>
    refine h.preserve_registry hs ?_ (shared ▸ rfl) work fun p hp snapshot hsnapshot => ?_
    · rw [shared]
      exact h.localAgent.apply mac (.update call.update)
    · cases hp
      cases hsnapshot
  | clone tick waiting shared work =>
    refine h.preserve_registry hs (shared ▸ h.localAgent) (shared ▸ rfl) work
      fun p hp snapshot hsnapshot => ?_
    cases hp
    cases hsnapshot
    refine ⟨?_,h.localAgent⟩
    by_contra hd
    rw [h.noHeartbeat (Bool.eq_false_iff.mpr hd)] at waiting
    cases waiting
  | refresh advertises shared work =>
    have hsigned := h.localAgent.sign mac m.config.sharedSecretAuth
    refine h.preserve_registry hs (shared ▸ hsigned) ?_ work fun p hp snapshot hsnapshot => ?_
    · rw [shared]
      exact (sign_frame mac m.shared m.config.sharedSecretAuth).1
    · cases hp
      cases hsnapshot
      exact ⟨h.unchanged ▸ advertises,hsigned⟩
  | announce snapshot source shared next hnext work =>
    refine h.preserve_registry hs (shared ▸ h.localAgent) (shared ▸ rfl) work
      fun p hp copy hcopy => ?_
    rcases hnext with rfl|⟨rfl,-⟩
    · cases hp
      cases hcopy
      have hwas := work.was _ rfl
      exact ⟨Bool.of_not_eq_false (h.advertises hwas rfl),h.copies _ hwas _ rfl⟩
    · cases hp
  | upsert snapshot now source shared work =>
    have hwas := work.was _ rfl
    have hlocal := h.copies _ hwas _ rfl
    obtain ⟨_,ht⟩ := upsert_transition h.keyed snapshot.announcement now .localOrigin
    refine h.preserve hs (shared ▸ h.localAgent) work hnone (shared ▸ ht.keyed) fun agent ha => ?_
    have hsame := upsertWithOriginAt_same m.shared.registry snapshot.announcement now .localOrigin
    rw [hlocal.1] at hsame
    rw [shared] at ha
    cases Option.some.inj (ha.symm.trans hsame)
    exact Or.inr ⟨Bool.of_not_eq_false (h.advertises hwas rfl),hlocal.2⟩
  | browse event task shared work =>
    obtain ⟨hkeyed,hsame,-⟩ := handle_local mac (Listener.ofConfig m.config)
      h.keyed (by rw [h.unchanged]; exact h.entry) event
    refine h.preserve hs (shared ▸ h.localAgent) work hnone (shared ▸ hkeyed) fun agent ha => ?_
    rw [h.unchanged] at hsame shared
    rw [shared] at ha
    exact Or.inl (hsame ▸ ha)
  | sweep order now task shared work =>
    obtain ⟨_,-,ht⟩ := evict_transition (m.shared.registry.staleIds order now) h.keyed []
    refine h.preserve hs (shared ▸ h.localAgent) work hnone (shared ▸ ht.keyed) fun agent ha => ?_
    rw [shared] at ha
    exact Or.inl (evictStaleAt_subset m.shared.registry ha)
  | withdraw announcement source shared work =>
    exact h.preserve_registry hs (shared ▸ h.localAgent) (shared ▸ rfl) work hnone
  | remove announcement source shared work =>
    obtain ⟨_,ht⟩ := removeWithOrigin_transition h.keyed announcement.agentId .localOrigin .graceful
    refine h.preserve hs (shared ▸ h.localAgent) work hnone (shared ▸ ht.keyed) fun agent ha => ?_
    rw [shared] at ha
    exact Or.inl (removeWithOrigin_subset m.shared.registry ha)

end Steps

/-- A node of a validated configuration starts with the invariant. -/
theorem LocalInvariant.init {mac : Mac} {config : ZeroConfConfig} (hvalid : Validated config)
    {m : Mesh} (h : Mesh.init mac config=.ok m) : LocalInvariant config m := by
  obtain ⟨a,ha,rfl⟩ := init_ok h
  have hlocal : IsLocal config ((unsigned config a).sign mac config.sharedSecretAuth).localAgent :=
    IsLocal.sign (s:=unsigned config a) (localAnnouncement_isLocal hvalid ha) mac _
  have hempty : ((unsigned config a).sign mac config.sharedSecretAuth).registry=
      Registry.new config.ttl := (sign_frame mac _ _).1
  have hnone : ∀ id : String,
      ((unsigned config a).sign mac config.sharedSecretAuth).registry.inner[id]?=none := by
    intro id
    rw [hempty]
    exact Std.ExtTreeMap.getElem?_empty
  have hpendings := init_pendings h
  refine ⟨rfl,hlocal,?_,?_,?_,?_,fun _ => rfl,fun _ => hnone _⟩
  · intro p hp snapshot hs
    rw [hpendings] at hp
    split at hp
    · cases List.mem_singleton.mp hp
      cases hs
      exact hlocal
    · exact absurd hp List.not_mem_nil
  · intro id agent hid
    cases (hnone id).symm.trans hid
  · intro agent hid
    cases (hnone _).symm.trans hid
  · intro hd p hp
    rw [hpendings,hd] at hp
    exact absurd hp List.not_mem_nil

/-- The invariant holds after every run. -/
theorem LocalInvariant.run {mac : Mac} {config : ZeroConfConfig} (hvalid : Validated config)
    {m₀ m : Mesh} (h₀ : Mesh.init mac config=.ok m₀) {actions : List Action}
    (hrun : exec (MeshRuntime.step mac) m₀ actions=some m) : LocalInvariant config m :=
  invariant_of_exec _ (fun _ _ _ h hs => h.step hs) hrun (LocalInvariant.init hvalid h₀)

/-- In every state that any interleaving of start-up, browse events, updates,
heartbeat ticks, sweeps and shutdown can reach from a validated configuration, a
listener step leaves the record under the local identifier as it is and sends no
event about it; on a discovery-only node that record never exists. -/
theorem network_leaves_local_entry (mac : Mac) (config : ZeroConfConfig)
    (hvalid : Validated config) {m₀ m : Mesh} (h₀ : Mesh.init mac config=.ok m₀)
    (actions : List Action) (hrun : exec (step mac) m₀ actions=some m) :
    (∀ event m', step mac m (.task (.browse event))=some m' →
      m'.shared.registry.inner[config.agentId]?=m.shared.registry.inner[config.agentId]? ∧
      ∃ sent, m'.shared.registry.events=m.shared.registry.events ++ sent ∧
        ∀ e ∈ sent, e.agent.id ≠ config.agentId) ∧
    (config.advertiseLocal=false → m.shared.registry.inner[config.agentId]?=none) := by
  have h := LocalInvariant.run hvalid h₀ hrun
  refine ⟨fun event m' hs => ?_,h.noEntry⟩
  obtain ⟨-,hsame,hsent⟩ := handle_local mac (Listener.ofConfig m.config) h.keyed
    (by rw [h.unchanged]; exact h.entry) event
  simp only [step,Mesh.taskStep] at hs
  split at hs
  · cases hs
    rw [h.unchanged] at hsame hsent
    rw [h.unchanged]
    exact ⟨hsame,hsent⟩
  · cases hs

/-- A peer under the local identifier, a removal of the peer and a tick. -/
def forgedIdentity : List Action :=
  startUp ++ [.task (.browse (.serviceResolved (samplePeer "agent-local" "forged") 1)),
    .task (.browse (samplePeerRemoved Iteration.ascending)),.tick .clone,
    .tick (.announce (.ok ())),.tick (.upsert 2)]

/-- The small node after these steps. -/
def forgedNode : Mesh :=
  (exec (step Mac.recorded) sampleNode forgedIdentity).get (by decide +kernel)

/-- The network still cannot touch the local record of that node. -/
theorem network_leaves_local_entry_forged :
    (∀ event m', step Mac.recorded forgedNode (.task (.browse event))=some m' →
      m'.shared.registry.inner[sampleConfig.agentId]?=
        forgedNode.shared.registry.inner[sampleConfig.agentId]? ∧
      ∃ sent, m'.shared.registry.events=forgedNode.shared.registry.events ++ sent ∧
        ∀ e ∈ sent, e.agent.id ≠ sampleConfig.agentId) ∧
    (sampleConfig.advertiseLocal=false →
      forgedNode.shared.registry.inner[sampleConfig.agentId]?=none) :=
  network_leaves_local_entry Mac.recorded sampleConfig sampleConfig_validated (Mesh.init_initial _)
    forgedIdentity (Option.some_get _).symm

end MeshPresence.LocalEntry
