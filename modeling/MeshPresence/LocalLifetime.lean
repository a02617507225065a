import MeshPresence.LocalEntry
import MeshPresence.ShutdownFinality
import MeshPresence.ExactEviction

/-!
# The local record lasts while no sweep meets it stale

Only the heartbeat keeps the observation time of the local record fresh, and the
sweeper evicts every record that is older than the TTL and reports it as a remote
departure. In a run whose sweeps never meet a stale local record, the local agent stays
in the registry from the end of the start-up until the shutdown begins, and events are
attributed to the local node exactly when they are about the local agent. A sweep that
does meet one breaks both.
-/

namespace MeshPresence.LocalLifetime

open FiniteMaps GuardedRuns AgentTypes AgentConfig AgentWire AgentRegistry AgentListener
open RegistryJournal RegistryQueries ExactEviction MeshRuntime MeshEffects
open LocalEntry ShutdownFinality

/-- Events about one identifier are local and all others are remote. -/
def Attributed (id : String) (events : List AgentEvent) : Prop :=
  ∀ e ∈ events, (e.agent.id=id → e.origin=.localOrigin) ∧ (e.agent.id ≠ id → e.origin=.remoteOrigin)

/-- Further events keep the attribution when they are attributed. -/
theorem Attributed.extend {id : String} {events events' : List AgentEvent}
    (h : Attributed id events)
    (hsent : ∀ e ∈ events', e ∈ events ∨ e.agent.id=id ∧ e.origin=.localOrigin ∨
      e.agent.id ≠ id ∧ e.origin=.remoteOrigin) : Attributed id events' := by
  intro e he
  rcases hsent e he with hold|⟨hid,horigin⟩|⟨hid,horigin⟩
  · exact h e hold
  · exact ⟨fun _ => horigin,fun hne => absurd hid hne⟩
  · exact ⟨fun hi => absurd hi hid,fun _ => horigin⟩

/-- The events of an upsert are about its announcement and carry its origin. -/
theorem upsert_origin (r : Registry) (a : AgentAnnouncement) (t : Instant) (origin : EventOrigin) :
    ∀ e ∈ (r.upsertWithOriginAt a t origin).2.events,
      e ∈ r.events ∨ e.agent.id=a.agentId ∧ e.origin=origin := by
  intro e he
  rcases upsertWithOriginAt_cases r a t origin with ⟨-,hr⟩|⟨_,-,-,hr⟩|⟨_,-,-,hr⟩ <;> rw [hr] at he
  · rcases List.mem_append.mp he with he|he
    · exact Or.inl he
    · rw [List.mem_singleton.mp he]
      exact Or.inr ⟨rfl,rfl⟩
  · exact Or.inl he
  · rcases List.mem_append.mp he with he|he
    · exact Or.inl he
    · rw [List.mem_singleton.mp he]
      exact Or.inr ⟨rfl,rfl⟩

/-- The events of a removal are about its identifier and carry its origin. -/
theorem remove_origin {r : Registry} (hk : KeyedById r.inner) (id : String) (origin : EventOrigin)
    (reason : DepartureReason) :
    ∀ e ∈ (r.removeWithOrigin id origin reason).2.events,
      e ∈ r.events ∨ e.agent.id=id ∧ e.origin=origin := by
  intro e he
  unfold Registry.removeWithOrigin at he
  split at he
  · next agent hagent =>
    rcases List.mem_append.mp he with he|he
    · exact Or.inl he
    · rw [List.mem_singleton.mp he]
      exact Or.inr ⟨hk id agent hagent,rfl⟩
  · exact Or.inl he

/-- A browse event sends remote events about other agents only, when the local record
carries the local instance name. -/
theorem handle_origin (mac : Mac) (listener : Listener) {r : Registry} (hk : KeyedById r.inner)
    (hentry : ∀ agent : AgentInfo, r.inner[listener.localAgentId]?=some agent →
      agent.instanceName=listener.localInstanceName) (event : BrowseEvent) :
    ∀ e ∈ (listener.handle mac r event).events,
      e ∈ r.events ∨ e.agent.id ≠ listener.localAgentId ∧ e.origin=.remoteOrigin := by
  intro e he
  rcases handle_cases mac listener r event with
    hr|⟨service,now,a,-,ha,hr⟩|⟨_,name,order,-,hname,hr⟩ <;> rw [hr] at he
  · exact Or.inl he
  · obtain ⟨-,hid,-⟩ := admits_some ha
    refine (upsert_origin r a now .remoteOrigin e he).imp_right fun hsent => ?_
    exact ⟨fun hi => hid (hsent.1.symm.trans hi),hsent.2⟩
  · rcases removeRemoteByInstanceName_cases r order name with ⟨-,hr⟩|⟨id,agent,hid,hbears,hr⟩ <;>
      rw [hr] at he
    · exact Or.inl he
    · have hne : id ≠ listener.localAgentId := by
        rintro rfl
        exact hname (hbears.symm.trans (hentry agent hid))
      refine (remove_origin hk id .remoteOrigin .graceful e he).imp_right fun hsent => ?_
      exact ⟨fun hi => hne (hsent.1.symm.trans hi),hsent.2⟩

/-- The guard of a run in which the local record never grows stale before a sweep. -/
def SweepsFresh (m : Mesh) (action : Action) : Prop := sweepsFresh m action=true

instance (m : Mesh) (action : Action) : Decidable (SweepsFresh m action) :=
  inferInstanceAs (Decidable (_=true))

/-- What such a run keeps true of an advertising node. -/
structure Lasting (config : ZeroConfConfig) (m : Mesh) : Prop where
  /-- The node keeps its identity. -/
  identity : LocalInvariant config m
  /-- Only a running node is shut down. -/
  started : m.shutdown ≠ .idle → m.start=.running
  /-- The node advertises. -/
  advertising : m.start ≠ .listenOnly
  /-- The shutdown is about the local agent. -/
  target : ∀ a, targetOf m.shutdown=some a → a.agentId=config.agentId
  /-- From the end of the start-up until the shutdown the local record is there. -/
  present : m.start=.running → m.shutdown=.idle →
    m.shared.registry.inner[config.agentId]?.isSome=true
  /-- Events are local exactly when they are about the local agent. -/
  attributed : Attributed config.agentId m.shared.registry.events

section Steps

variable {mac : Mac} {config : ZeroConfConfig} {m m' : Mesh}

/-- Steps that leave start-up and shutdown alone, given what they do to the registry. -/
theorem Lasting.frame (h : Lasting config m) (hidentity : LocalInvariant config m')
    (hphases : m'.start=m.start ∧ m'.shutdown=m.shutdown)
    (hpresent : m.shared.registry.inner[config.agentId]?.isSome=true →
      m'.shared.registry.inner[config.agentId]?.isSome=true)
    (hattributed : Attributed config.agentId m'.shared.registry.events) : Lasting config m' := by
  obtain ⟨hstart,hshutdown⟩ := hphases
  refine ⟨hidentity,?_,?_,?_,?_,hattributed⟩
  · rw [hstart,hshutdown]
    exact h.started
  · rw [hstart]
    exact h.advertising
  · rw [hshutdown]
    exact h.target
  · rw [hstart,hshutdown]
    exact fun hs hi => hpresent (h.present hs hi)

/-- Steps that leave the phases and the registry alone. -/
theorem Lasting.frameQuiet (h : Lasting config m) (hidentity : LocalInvariant config m')
    (hphases : m'.start=m.start ∧ m'.shutdown=m.shutdown)
    (hregistry : m'.shared.registry=m.shared.registry) : Lasting config m' :=
  h.frame hidentity hphases (by rw [hregistry]; exact id) (by rw [hregistry]; exact h.attributed)

/-- A local upsert of a copy stores the local record and is attributed to the node. -/
theorem Lasting.upsert (h : Lasting config m) {snapshot : Snapshot}
    (hp : .upsert snapshot ∈ m.pendings) (now : Instant) :
    (m.shared.upsertLocal snapshot now).registry.inner[config.agentId]?.isSome=true ∧
      Attributed config.agentId (m.shared.upsertLocal snapshot now).registry.events := by
  have hid := (h.identity.copies _ hp _ rfl).1
  have hsame := upsertWithOriginAt_same m.shared.registry snapshot.announcement now .localOrigin
  rw [hid] at hsame
  refine ⟨Option.isSome_of_eq_some hsame,h.attributed.extend fun e he => ?_⟩
  have hsent := upsert_origin m.shared.registry snapshot.announcement now .localOrigin e he
  rw [hid] at hsent
  exact hsent.imp_right Or.inl

/-- Steps of calls, ticks and tasks whose sweeps are fresh. -/
theorem Lasting.runtimeStep {action : Action} (h : Lasting config m)
    (hg : SweepsFresh m action) (hs : step mac m action=some m') (hstart : party action ≠ .start)
    (hshutdown : party action ≠ .shutdown) : Lasting config m' := by
  have hidentity := h.identity.step hs
  have hframe := step_frame hs
  have hphases : m'.start=m.start ∧ m'.shutdown=m.shutdown :=
    ⟨hframe.start hstart,hframe.shutdown hshutdown⟩
  cases step_effect hs with
  | quiet shared work => exact h.frameQuiet hidentity hphases (by rw [shared])
  | abandon snapshot error source shared work =>
    rw [source] at hstart
    exact absurd rfl hstart
  | skip discovery shared work => exact h.frameQuiet hidentity hphases (by rw [shared])
  | mutate i call source hcall succeeds shared work =>
    exact h.frameQuiet hidentity hphases (by rw [shared]; rfl)
  | clone tick waiting shared work => exact h.frameQuiet hidentity hphases (by rw [shared]; rfl)
  | refresh advertises shared work =>
    obtain ⟨hregistry,-,-⟩ := sign_frame mac m.shared m.config.sharedSecretAuth
    exact h.frameQuiet hidentity hphases (by rw [shared]; exact hregistry)
  | announce snapshot source shared next hnext work =>
    exact h.frameQuiet hidentity hphases (by rw [shared]; rfl)
  | upsert snapshot now source shared work =>
    obtain ⟨hpresent,hattributed⟩ := h.upsert (work.was _ rfl) now
    rw [←shared] at hpresent hattributed
    exact h.frame hidentity hphases (fun _ => hpresent) hattributed
  | browse event task shared work =>
    have hentry : ∀ agent : AgentInfo, m.shared.registry.inner[config.agentId]?=some agent →
        agent.instanceName=config.instanceName := h.identity.entry
    rw [h.identity.unchanged] at shared
    have hlocal := handle_local mac (Listener.ofConfig config) h.identity.keyed hentry event
    have hsent := handle_origin mac (Listener.ofConfig config) h.identity.keyed hentry event
    refine h.frame hidentity hphases ?_ ?_
    · rw [shared]
      exact fun hp => hlocal.2.1 ▸ hp
    · rw [shared]
      exact h.attributed.extend fun e he => (hsent e he).imp_right Or.inr
  | sweep order now task shared work =>
    rw [SweepsFresh,task,sweepsFresh,h.identity.unchanged] at hg
    have hfresh : ∀ agent : AgentInfo, m.shared.registry.inner[config.agentId]?=some agent →
        isStale agent now m.shared.registry.ttl=false := by
      intro agent hagent
      rwa [hagent,Option.all_some,Bool.not_eq_true'] at hg
    obtain ⟨hkept,hothers⟩ := evictStaleAt_keeps h.identity.keyed hfresh order
    have hsent : ∀ e ∈ (m.shared.registry.evictStaleAt order now).2.events,
        e ∈ m.shared.registry.events ∨ e.agent.id ≠ config.agentId ∧ e.origin=.remoteOrigin := by
      intro e he
      rw [evictStaleAt_events,List.mem_append] at he
      refine he.imp_right fun hgone => ?_
      obtain ⟨agent,hagent,rfl⟩ := List.mem_map.mp hgone
      exact ⟨hothers agent hagent,rfl⟩
    refine h.frame hidentity hphases ?_ ?_
    · rw [shared]
      exact fun hp => hkept ▸ hp
    · rw [shared]
      exact h.attributed.extend fun e he => (hsent e he).imp_right Or.inr
  | withdraw announcement source shared work =>
    rw [source] at hshutdown
    exact absurd rfl hshutdown
  | remove announcement source shared work =>
    rw [source] at hshutdown
    exact absurd rfl hshutdown

/-- Before the shutdown, presence and attribution matter. -/
theorem Lasting.ofIdle (hidentity : LocalInvariant config m) (hidle : m.shutdown=.idle)
    (hadvertising : m.start ≠ .listenOnly)
    (hpresent : m.start=.running → m.shared.registry.inner[config.agentId]?.isSome=true)
    (hattributed : Attributed config.agentId m.shared.registry.events) : Lasting config m := by
  refine ⟨hidentity,fun h => absurd hidle h,hadvertising,fun a ha => ?_,fun hs _ => hpresent hs,
    hattributed⟩
  rw [hidle] at ha
  cases ha

/-- During the shutdown, its target and the attribution matter. -/
theorem Lasting.ofBusy (hidentity : LocalInvariant config m) (hstart : m.start=.running)
    (hbusy : m.shutdown ≠ .idle)
    (htarget : ∀ a, targetOf m.shutdown=some a → a.agentId=config.agentId)
    (hattributed : Attributed config.agentId m.shared.registry.events) : Lasting config m :=
  ⟨hidentity,fun _ => hstart,fun hl => (by cases hstart.symm.trans hl),htarget,
    fun _ hi => absurd hi hbusy,hattributed⟩

/-- Steps of the start-up. -/
theorem Lasting.startStep {action : StartAction} (h : Lasting config m)
    (hs : step mac m (.start action)=some m') : Lasting config m' := by
  have hidentity := h.identity.step hs
  have hidle : ∀ phase, m.start=phase → phase ≠ .running → m.shutdown=.idle := by
    rintro phase rfl hn
    exact by_contra fun hidle => hn (h.started hidle)
  cases startStep_cases hs with
  | announce snapshot hstart | announceFailed snapshot hstart _ | listen snapshot hstart
  | abandon snapshot hstart _ =>
    have hi := hidle _ hstart (fun hr => by cases hr)
    exact .ofIdle hidentity hi (fun hl => by cases hl) (fun hr => by cases hr) h.attributed
  | listenOnly hstart | listenFailed hstart _ => exact absurd hstart h.advertising
  | upsert snapshot now hstart _ =>
    have hi := hidle _ hstart (fun hr => by cases hr)
    have hpending : Pending.upsert snapshot ∈ m.pendings :=
      mem_pendings.mpr (Or.inl (congrArg StartPhase.pending hstart))
    obtain ⟨hpresent,hattributed⟩ := h.upsert hpending now
    exact .ofIdle hidentity hi (fun hl => by cases hl) (fun _ => hpresent) hattributed

/-- Steps of the shutdown. -/
theorem Lasting.shutdownStep {action : ShutdownAction} (h : Lasting config m)
    (hs : step mac m (.shutdown action)=some m') : Lasting config m' := by
  have hidentity := h.identity.step hs
  have hstarted : ∀ phase, m.shutdown=phase → phase ≠ .idle → m.start=.running := by
    rintro phase rfl hn
    exact h.started hn
  have htarget : ∀ phase a, m.shutdown=phase → targetOf phase=some a →
      a.agentId=config.agentId := by
    rintro phase a rfl ha
    exact h.target a ha
  cases shutdownStep_cases hs with
  | signal hstart _ =>
    exact .ofBusy hidentity hstart (fun hi => by cases hi) (fun a ha => by cases ha) h.attributed
  | clone hphase advertises =>
    have hstart := hstarted _ hphase (fun hi => by cases hi)
    refine .ofBusy hidentity hstart (fun hi => by cases hi) (fun a ha => ?_) h.attributed
    cases ha
    exact h.identity.localAgent.1
  | skip hphase _ | join hphase _ _ =>
    have hstart := hstarted _ hphase (fun hi => by cases hi)
    exact .ofBusy hidentity hstart (fun hi => by cases hi) (fun a ha => by cases ha) h.attributed
  | unregister announcement hphase =>
    have hstart := hstarted _ hphase (fun hi => by cases hi)
    refine .ofBusy hidentity hstart (fun hi => by cases hi) (fun a ha => ?_) h.attributed
    cases ha
    exact htarget _ _ hphase rfl
  | remove announcement hphase =>
    have hstart := hstarted _ hphase (fun hi => by cases hi)
    refine .ofBusy hidentity hstart (fun hi => by cases hi) (fun a ha => by cases ha) ?_
    refine h.attributed.extend fun e he => ?_
    rw [←htarget _ _ hphase rfl]
    exact (remove_origin h.identity.keyed _ .localOrigin .graceful e he).imp_right Or.inl

/-- Every step whose sweep is fresh keeps the invariant. -/
theorem Lasting.step {action : Action} (h : Lasting config m) (hg : SweepsFresh m action)
    (hs : MeshRuntime.step mac m action=some m') : Lasting config m' := by
  cases action with
  | start action => exact h.startStep hs
  | shutdown action => exact h.shutdownStep hs
  | call action | tick action | task action =>
    exact h.runtimeStep hg hs (fun hp => by cases hp) (fun hp => by cases hp)

/-- An advertising node starts with the invariant. -/
theorem Lasting.init (hvalid : Validated config) (hadvertise : config.advertiseLocal=true)
    (h : Mesh.init mac config=.ok m) : Lasting config m := by
  have hidentity := LocalInvariant.init hvalid h
  obtain ⟨a,-,rfl⟩ := init_ok h
  obtain ⟨hregistry,-,-⟩ := sign_frame mac (unsigned config a) config.sharedSecretAuth
  have hattributed : Attributed config.agentId
      ((unsigned config a).sign mac config.sharedSecretAuth).copied.registry.events := by
    rw [Shared.copied,hregistry]
    exact fun _ he => absurd he List.not_mem_nil
  rw [hadvertise,if_pos rfl] at hidentity ⊢
  exact .ofIdle hidentity rfl (fun hl => by cases hl) (fun hr => by cases hr) hattributed

end Steps

/-- In every run of an advertising node in which no sweep meets the local record older
than the TTL, the registry contains the local agent from the end of the start-up until
the shutdown begins, and every event ever sent is local when it is about the local agent
and remote when it is about another. -/
theorem local_agent_lasts (mac : Mac) (config : ZeroConfConfig) (hvalid : Validated config)
    (hadvertise : config.advertiseLocal=true) {m₀ m : Mesh} (h₀ : Mesh.init mac config=.ok m₀)
    (actions : List Action) (hg : Guarded (step mac) SweepsFresh m₀ actions)
    (hrun : exec (step mac) m₀ actions=some m) :
    (m.start=.running → m.shutdown=.idle →
      m.shared.registry.inner[config.agentId]? ≠ none) ∧
    ∀ e ∈ m.shared.registry.events,
      (e.agent.id=config.agentId → e.origin=.localOrigin) ∧
      (e.agent.id ≠ config.agentId → e.origin=.remoteOrigin) := by
  have h : Lasting config m :=
    invariant_of_guarded (Lasting config) (fun _ _ _ h hg hs => h.step hg hs) hg hrun
      (Lasting.init hvalid hadvertise h₀)
  exact ⟨fun hs hi => Option.isSome_iff_ne_none.mp (h.present hs hi),h.attributed⟩

/-- A peer joins, a tick refreshes the local record, and a sweep evicts only the peer. -/
def attendedSweep : List Action :=
  startUp ++ [.task (.browse (.serviceResolved (samplePeer "agent-peer" "unsigned") 1)),
    .tick .clone,.tick (.announce (.ok ())),.tick (.upsert 100000000000),
    .task (.sweep Iteration.ascending 130000000000)]

/-- The small node after these steps. -/
def attendedNode : Mesh :=
  (exec (step Mac.recorded) sampleNode attendedSweep).get (by decide +kernel)

/-- The peer of that node has expired, and the local agent is still there. -/
theorem local_agent_lasts_attended :
    attendedNode.shared.registry.inner["agent-peer"]?=none ∧
    (attendedNode.start=.running → attendedNode.shutdown=.idle →
      attendedNode.shared.registry.inner[sampleConfig.agentId]? ≠ none) ∧
    ∀ e ∈ attendedNode.shared.registry.events,
      (e.agent.id=sampleConfig.agentId → e.origin=.localOrigin) ∧
      (e.agent.id ≠ sampleConfig.agentId → e.origin=.remoteOrigin) := by
  refine ⟨by decide +kernel,?_⟩
  exact local_agent_lasts Mac.recorded sampleConfig sampleConfig_validated rfl
    (Mesh.init_initial _) attendedSweep (by decide +kernel) (Option.some_get _).symm

/-- A sweep that meets a stale local record reports it as a remote departure. -/
theorem stale_sweep_misattributes {mac : Mac} {config : ZeroConfConfig} {m m' : Mesh}
    (h : LocalInvariant config m) {order : AgentOrder} {now : Instant} {agent : AgentInfo}
    (hagent : m.shared.registry.inner[config.agentId]?=some agent)
    (hstale : isStale agent now m.shared.registry.ttl=true)
    (hs : step mac m (.task (.sweep order now))=some m') :
    .left agent .remoteOrigin .expired ∈ m'.shared.registry.events ∧
      agent.id=config.agentId := by
  refine ⟨?_,h.keyed config.agentId agent hagent⟩
  simp only [step,Mesh.taskStep] at hs
  split at hs
  · cases hs
    have hgone : agent ∈ (m.shared.registry.evictStaleAt order now).1 :=
      mem_evictStaleAt.mpr ⟨⟨config.agentId,hagent⟩,hstale⟩
    dsimp only
    rw [evictStaleAt_events]
    exact List.mem_append_right _ (List.mem_map_of_mem hgone)
  · cases hs

/-- The process stalls after the start-up for longer than the TTL, and the sweeper runs
before the heartbeat. -/
def stalledSweep : List Action :=
  startUp ++ [.task (.sweep Iteration.ascending 120000000001)]

/-- The small node after the stall. -/
def stalledNode : Mesh := (exec (step Mac.recorded) sampleNode stalledSweep).get (by decide +kernel)

/-- The running node has lost its own agent, and says that a remote agent with the local
identifier has expired. -/
theorem stalled_node_expires_itself :
    Validated sampleConfig ∧ sampleConfig.advertiseLocal=true ∧
    Mesh.init Mac.recorded sampleConfig=.ok sampleNode ∧
    exec (step Mac.recorded) sampleNode stalledSweep=some stalledNode ∧
    stalledNode.start=.running ∧ stalledNode.shutdown=.idle ∧
    stalledNode.shared.registry.inner[sampleConfig.agentId]?=none ∧
    stalledNode.shared.registry.events.map
      (fun e => (e.agent.id,e.origin,e.departureReason))=
        [(sampleConfig.agentId,.localOrigin,none),
         (sampleConfig.agentId,.remoteOrigin,some .expired)] := by
  refine ⟨sampleConfig_validated,rfl,Mesh.init_initial _,(Option.some_get _).symm,?_⟩
  decide +kernel

end MeshPresence.LocalLifetime
