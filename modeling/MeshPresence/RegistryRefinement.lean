import MeshPresence.MeshNetwork
import MeshPresence.PresenceViews
import MeshPresence.QueryHistories
import MeshPresence.RunTraces
import MeshPresence.ShutdownFinality

/-!
# The registry of a running node as a presence view

Every step of a node makes at most one observation: its own announcement or an admitted
peer is heard, a departing agent is forgotten, or what is stale expires. The registry
follows the observations of the node as a presence view does, whatever the order of its
hash map. An agent is therefore listed exactly when it was the last one heard under its
identifier and nothing since made the node forget it.
-/

namespace MeshPresence.RegistryRefinement

open FiniteMaps GuardedRuns RunTraces PresenceViews AgentTypes AgentConfig AgentWire
open AgentRegistry AgentListener AnnouncementInvariant RegistryJournal ExactEviction QueryHistories
open ValidatedConfig MeshRuntime MeshEffects LocalEntry ServiceTransport MeshNetwork

/-- The presence view of a registry. -/
def presence (r : Registry) : View String AgentAnnouncement := fun id =>
  r.inner[id]?.map fun agent => (agent.payload,agent.lastSeen)

section Operations

variable (r : Registry)

/-- An upsert hears its announcement. -/
theorem presence_upsert (lifetime : ℕ) (a : AgentAnnouncement) (t : Instant)
    (origin : EventOrigin) : presence (r.upsertWithOriginAt a t origin).2=
      Observation.apply lifetime (presence r) (.heard a.agentId a t) := by
  funext id
  rw [presence,upsert_acts,Observation.apply,Function.update_apply]
  by_cases hid : id=a.agentId
  · rw [if_pos hid.symm,if_pos hid]
    rfl
  · rw [if_neg (Ne.symm hid),if_neg hid]
    rfl

/-- A removal forgets its identifier. -/
theorem presence_remove (lifetime : ℕ) (agentId : String) (origin : EventOrigin)
    (reason : DepartureReason) : presence (r.removeWithOrigin agentId origin reason).2=
      Observation.apply lifetime (presence r) (.forgotten agentId) := by
  funext id
  rw [presence,removeWithOrigin_acts,Observation.apply,Function.update_apply]
  by_cases hid : id=agentId
  · rw [if_pos hid.symm,if_pos hid]
    rfl
  · rw [if_neg (Ne.symm hid),if_neg hid]
    rfl

/-- A sweep lets records expire. -/
theorem presence_sweep (order : AgentOrder) (now : Instant) :
    presence (r.evictStaleAt order now).2=
      Observation.apply r.ttl (presence r) (.expired now) := by
  funext id
  simp only [presence,getElem?_evictStaleAt,Observation.apply]
  cases r.inner[id]? with
  | none => rfl
  | some agent =>
    have hfresh : (!isStale agent now r.ttl)=decide (now-agent.lastSeen ≤ r.ttl) := by
      simp only [isStale,←decide_not,gt_iff_lt,not_lt]
    rw [Option.filter_some,hfresh,Option.map_some,Option.filter_some]
    split <;> rfl

/-- What a removal by instance name makes the registry forget. -/
def forgottenByName (order : AgentOrder) (name : String) :
    List (Observation String AgentAnnouncement) :=
  (r.removeRemoteByInstanceName order name).1.toList.map fun agent => .forgotten agent.id

/-- A removal by instance name forgets the record that it removes. -/
theorem presence_removeByName {r : Registry} (hk : KeyedById r.inner) (lifetime : ℕ)
    (order : AgentOrder) (name : String) :
    presence (r.removeRemoteByInstanceName order name).2=
      observe lifetime (presence r) (forgottenByName r order name) := by
  rw [forgottenByName]
  rcases removeRemoteByInstanceName_cases r order name with ⟨-,he⟩|⟨id,agent,hagent,-,he⟩
  · rw [he]
    rfl
  · have hremoved : (r.removeWithOrigin id .remoteOrigin .graceful).1=some agent := by
      rw [Registry.removeWithOrigin,hagent]
    rw [he,hremoved,presence_remove r lifetime,Option.toList_some,List.map_singleton,
      hk id agent hagent]
    rfl

end Operations

/-- The clock reading of an upsert of the local agent. -/
def readingOf : Action → Option Instant
  | .start (.upsert now) => some now
  | .call (.upsert _ now) => some now
  | .tick (.upsert now) => some now
  | _ => none

/-- What a step of a node observes. -/
def observed (mac : Mac) (m : Mesh) (action : Action) :
    List (Observation String AgentAnnouncement) :=
  match action with
  | .task (.browse (.serviceResolved service now)) =>
    ((Listener.ofConfig m.config).admits mac service).toList.map fun a => .heard a.agentId a now
  | .task (.browse (.serviceRemoved _ fullname order)) =>
    if fullname ≠ m.config.instanceName then forgottenByName m.shared.registry order fullname
    else []
  | .task (.sweep _ now) => [.expired now]
  | .shutdown .remove =>
    (ShutdownFinality.targetOf m.shutdown).toList.map fun a => .forgotten a.agentId
  | action =>
    match upserted m action,readingOf action with
    | some snapshot,some now => [.heard snapshot.announcement.agentId snapshot.announcement now]
    | _,_ => []

/-- The registry is keyed and keeps the TTL of the configuration. -/
structure Configured (m : Mesh) : Prop where
  /-- Records are stored under their own identifiers. -/
  keyed : KeyedById m.shared.registry.inner
  /-- The TTL. -/
  ttl : m.shared.registry.ttl=m.config.ttl

section Steps

variable {mac : Mac} {m m' : Mesh} {action : Action}

/-- A step that leaves the registry alone and observes nothing. -/
theorem follows_same (h : m'.shared.registry=m.shared.registry) (hnone : observed mac m action=[]) :
    presence m'.shared.registry=
      observe m.config.ttl (presence m.shared.registry) (observed mac m action) := by
  rw [h,hnone]
  rfl

/-- A step that upserts the local agent. -/
theorem follows_upsert {snapshot : Snapshot} {now : Instant}
    (h : m'.shared=m.shared.upsertLocal snapshot now) (hheard : observed mac m action=
      [.heard snapshot.announcement.agentId snapshot.announcement now]) :
    presence m'.shared.registry=
      observe m.config.ttl (presence m.shared.registry) (observed mac m action) := by
  rw [h,hheard]
  exact presence_upsert m.shared.registry m.config.ttl snapshot.announcement now .localOrigin

/-- The registry follows a browse event that the listener handles. -/
theorem browse_follows (hk : KeyedById m.shared.registry.inner) (event : BrowseEvent) :
    presence ((Listener.ofConfig m.config).handle mac m.shared.registry event)=
      observe m.config.ttl (presence m.shared.registry)
        (observed mac m (.task (.browse event))) := by
  cases event with
  | serviceResolved service now =>
    rw [handle_serviceResolved]
    cases hadmits : (Listener.ofConfig m.config).admits mac service with
    | none =>
      simp only [observed,hadmits]
      rfl
    | some a =>
      simp only [observed,hadmits]
      exact presence_upsert m.shared.registry m.config.ttl a now .remoteOrigin
  | serviceRemoved serviceType fullname order =>
    simp only [observed,Listener.handle]
    by_cases hname : fullname ≠ m.config.instanceName
    · have hother : fullname ≠ (Listener.ofConfig m.config).localInstanceName := hname
      rw [if_pos hname,if_pos hother]
      exact presence_removeByName hk m.config.ttl order fullname
    · have hlocal : ¬fullname ≠ (Listener.ofConfig m.config).localInstanceName := hname
      rw [if_neg hname,if_neg hlocal]
      rfl
  | searchStarted | searchStopped | serviceFound | other | channelClosed => rfl

/-- The registry follows every step as a presence view follows what the step observes. -/
theorem step_follows (h : Configured m) (hs : MeshRuntime.step mac m action=some m') :
    presence m'.shared.registry=
      observe m.config.ttl (presence m.shared.registry) (observed mac m action) := by
  cases action with
  | start action =>
    have hmove : m.startStep action=some m' := hs
    cases startStep_cases hmove with
    | announce | announceFailed | listen | abandon | listenOnly | listenFailed =>
      exact follows_same rfl rfl
    | upsert snapshot now hstart hheartbeat =>
      exact follows_upsert rfl (by simp only [observed,upserted,hstart,readingOf])
  | call action =>
    rcases callStep_cases hs with ⟨update,rfl,rfl⟩|⟨i,call,phase,shared,hcall,hmove,rfl⟩
    · exact follows_same rfl rfl
    · cases hmove with
      | mutate | reject | skip | announce | announceFailed => exact follows_same rfl rfl
      | refresh hphase advertises =>
        exact follows_same (sign_frame mac m.shared m.config.sharedSecretAuth).1 rfl
      | upsert snapshot now hphase =>
        exact follows_upsert rfl
          (by simp only [observed,upserted,hcall,hphase,Option.map_some,readingOf])
  | tick action =>
    simp only [MeshRuntime.step] at hs
    cases action with
    | clone | announce =>
      simp only [Mesh.tickStep] at hs
      split at hs <;> cases hs
      exact follows_same rfl rfl
    | upsert now =>
      simp only [Mesh.tickStep] at hs
      split at hs
      · next snapshot hheartbeat =>
        cases hs
        exact follows_upsert rfl (by simp only [observed,upserted,hheartbeat,readingOf])
      · cases hs
    | stop =>
      simp only [Mesh.tickStep] at hs
      split at hs
      · split at hs <;> cases hs
        exact follows_same rfl rfl
      · cases hs
  | task action =>
    simp only [MeshRuntime.step] at hs
    cases action with
    | browse event =>
      simp only [Mesh.taskStep] at hs
      split at hs <;> cases hs
      exact browse_follows h.keyed event
    | sweep order now =>
      simp only [Mesh.taskStep] at hs
      split at hs <;> cases hs
      have hsweep := presence_sweep m.shared.registry order now
      rw [h.ttl] at hsweep
      exact hsweep
    | stopListener | stopSweeper =>
      simp only [Mesh.taskStep] at hs
      split at hs <;> cases hs
      exact follows_same rfl rfl
  | shutdown action =>
    cases shutdownStep_cases hs with
    | signal | clone | skip | unregister | join => exact follows_same rfl rfl
    | remove announcement hphase =>
      simp only [observed,hphase,ShutdownFinality.targetOf]
      exact presence_remove m.shared.registry m.config.ttl announcement.agentId .localOrigin .graceful

/-- Every step of an honest node keeps the TTL of the registry. -/
theorem step_ttl (hs : MeshRuntime.step mac m action=some m') :
    m'.shared.registry.ttl=m.shared.registry.ttl := by
  cases step_effect hs with
  | quiet shared | abandon snapshot error source shared | skip discovery shared
    | mutate i call source hcall succeeds shared | clone tick waiting shared
    | announce snapshot source shared | withdraw announcement source shared => exact shared ▸ rfl
  | refresh advertises shared =>
    rw [shared,Shared.copied,(sign_frame mac m.shared m.config.sharedSecretAuth).1]
  | upsert snapshot now source shared =>
    rw [shared]
    exact run_ttl m.shared.registry (.upsertLocal snapshot.announcement now)
  | browse event task shared =>
    rw [shared]
    rcases handle_cases mac (Listener.ofConfig m.config) m.shared.registry event with
      he|⟨service,now,a,-,-,he⟩|⟨_,name,order,-,-,he⟩ <;> simp only [he]
    · exact run_ttl m.shared.registry (.upsertRemote a now)
    · exact run_ttl m.shared.registry (.removeRemoteByInstanceName order name)
  | sweep order now task shared =>
    rw [shared]
    exact run_ttl m.shared.registry (.evictStaleAt order now)
  | remove announcement source shared =>
    rw [shared]
    exact run_ttl m.shared.registry (.removeLocal announcement.agentId)

end Steps

section Runs

variable {mac : Mac} {config : ZeroConfConfig} {m₀ m : Mesh} {actions : List Action}

/-- A new node lists nobody and keeps the TTL of its configuration. -/
theorem init_presence (h : Mesh.init mac config=.ok m₀) :
    presence m₀.shared.registry=(fun _ => none) ∧ m₀.shared.registry.ttl=config.ttl := by
  obtain ⟨a,-,rfl⟩ := init_ok h
  rw [Shared.copied,(sign_frame mac _ _).1]
  refine ⟨?_,rfl⟩
  funext id
  rw [presence,unsigned,Registry.new,Std.ExtTreeMap.getElem?_empty]
  rfl

/-- The registry of a node follows what the node observed since it was built. -/
theorem presence_run (hvalid : Validated config) (h₀ : Mesh.init mac config=.ok m₀)
    (hrun : exec (MeshRuntime.step mac) m₀ actions=some m) : presence m.shared.registry=
      observe config.ttl (fun _ => none) (trace (MeshRuntime.step mac) (observed mac) m₀ actions) := by
  let Inv (m : Mesh) : Prop := LocalInvariant config m ∧ m.shared.registry.ttl=config.ttl
  obtain ⟨hempty,httl⟩ := init_presence h₀
  have hfollows : ∀ s a t, Inv s → MeshRuntime.step mac s a=some t → presence t.shared.registry=
      (observed mac s a).foldl (Observation.apply config.ttl) (presence s.shared.registry) := by
    intro s a t h hs
    have hconfig : s.config=config := h.1.unchanged
    have hstep := step_follows ⟨h.1.keyed,h.2.trans (congrArg ZeroConfConfig.ttl hconfig.symm)⟩ hs
    rw [hconfig] at hstep
    exact hstep
  rw [←hempty]
  exact follows_exec Inv (fun s a t h hs => ⟨h.1.step hs,(step_ttl hs).trans h.2⟩) hfollows hrun
    ⟨LocalInvariant.init hvalid h₀,httl⟩

/-- A record stands for an entry of the presence view. -/
theorem presence_eq_some_iff {r : Registry} {id : String} {agent : AgentInfo} :
    presence r id=some (agent.payload,agent.lastSeen) ↔ r.inner[id]?=some agent := by
  rw [presence,Option.map_eq_some_iff]
  constructor
  · rintro ⟨other,hother,he⟩
    obtain ⟨hpayload,hseen⟩ := Prod.mk.inj he
    rw [hother,←intoAgentInfo_payload other,hpayload,hseen,intoAgentInfo_payload]
  · exact fun h => ⟨agent,h,rfl⟩

end Runs

/-- The own run of a node of a network, at any time and in any interleaving with the others, is the
part that the node has in the steps of the network since it was built: it starts with a node of a
validated configuration and leads to the node. The node lists a record exactly when in this run
its payload was the last one heard under the identifier, at the time of the record, and nothing
since removed the record or let it expire. -/
theorem listed_iff_heard {ι : Type} [DecidableEq ι] (mac : Mac) (transport : Transport)
    (actions : List (NetworkAction ι)) (net : Network ι)
    (hrun : exec (Network.step mac transport) (Network.empty ι) actions=some net) (i : ι) (m : Mesh)
    (hnode : net.nodes i=some m) : ∃ config own,
      ownRun mac transport i (Network.empty ι) none actions=some own ∧ Validated config ∧
      Mesh.init mac config=.ok own.start ∧
      exec (MeshRuntime.step mac) own.start own.steps=some m ∧
      ∀ (id : String) (agent : AgentInfo), m.shared.registry.inner[id]?=some agent ↔
        ∃ before after, trace (MeshRuntime.step mac) (observed mac) own.start own.steps=
            before ++ .heard id agent.payload agent.lastSeen :: after ∧
          ∀ other ∈ after, Spares config.ttl id agent.lastSeen other := by
  obtain ⟨config,own,hown,hvalid,hinit,hsteps⟩ := node_run hrun hnode
  refine ⟨config,own,hown,hvalid,hinit,hsteps,fun id agent => ?_⟩
  rw [←presence_eq_some_iff,presence_run hvalid hinit hsteps,observe_eq_some_iff]

/-- The listening node of the meeting lists what it heard. -/
theorem listed_iff_heard_meeting : ∃ config own,
    ownRun Mac.recorded plainTransport true (Network.empty Bool) none firstMeeting=some own ∧
    Validated config ∧ Mesh.init Mac.recorded config=.ok own.start ∧
    exec (MeshRuntime.step Mac.recorded) own.start own.steps=some greeter ∧
    ∀ (id : String) (agent : AgentInfo), greeter.shared.registry.inner[id]?=some agent ↔
      ∃ before after, trace (MeshRuntime.step Mac.recorded) (observed Mac.recorded) own.start
          own.steps=before ++ .heard id agent.payload agent.lastSeen :: after ∧
        ∀ other ∈ after, Spares config.ttl id agent.lastSeen other :=
  listed_iff_heard Mac.recorded plainTransport firstMeeting meeting (Option.some_get _).symm true
    greeter (Option.some_get _).symm

/-- Whatever happens on a node in between: when an agent was last heard more than the TTL before
a sweep and is not heard after it, the node does not list the agent any more. -/
theorem silent_agents_expire (mac : Mac) (config : ZeroConfConfig) (hvalid : Validated config)
    {m₀ m₁ m₂ m₃ : Mesh} (h₀ : Mesh.init mac config=.ok m₀) (before after : List Action)
    (order : AgentOrder) (now : Instant) (id : String)
    (hbefore : exec (MeshRuntime.step mac) m₀ before=some m₁)
    (hsweep : MeshRuntime.step mac m₁ (.task (.sweep order now))=some m₂)
    (hafter : exec (MeshRuntime.step mac) m₂ after=some m₃)
    (hlate : ∀ seen ∈ trace (MeshRuntime.step mac) (observed mac) m₀ before,
      Overdue config.ttl id now seen)
    (hsilent : ∀ seen ∈ trace (MeshRuntime.step mac) (observed mac) m₂ after, Silent id seen) :
    m₃.shared.registry.inner[id]?=none := by
  have hswept := exec_append hbefore (exec_singleton hsweep)
  have hrun := exec_append hswept hafter
  have htrace : trace (MeshRuntime.step mac) (observed mac) m₀
      ((before ++ [.task (.sweep order now)]) ++ after)=
      trace (MeshRuntime.step mac) (observed mac) m₀ before ++ .expired now ::
        trace (MeshRuntime.step mac) (observed mac) m₂ after := by
    rw [trace_append hswept,trace_append hbefore,List.append_assoc]
    simp only [trace,hsweep,observed,List.append_nil,List.singleton_append]
  have hnone : presence m₃.shared.registry id=none := by
    rw [presence_run hvalid h₀ hrun,htrace]
    exact observe_silent hlate hsilent
  exact Option.map_eq_none_iff.mp hnone

/-- A peer is resolved after the start-up. -/
def peerHeard : List Action :=
  startUp ++ [.task (.browse (.serviceResolved (samplePeer "agent-peer" "unsigned") 1))]

/-- The small node when it heard of the peer. -/
def hearingNode : Mesh := (exec (step Mac.recorded) sampleNode peerHeard).get (by decide +kernel)

/-- The small node after a sweep when the peer is overdue. -/
def sweptNode : Mesh :=
  (step Mac.recorded hearingNode (.task (.sweep .ascending 120000000002))).get (by decide +kernel)

/-- The small node after one more heartbeat. -/
def beatingNode : Mesh :=
  (exec (step Mac.recorded) sweptNode [.tick .clone,.tick (.announce (.ok ())),
    .tick (.upsert 120000000003)]).get (by decide +kernel)

/-- The peer is not listed any more. -/
theorem silent_agents_expire_peer : beatingNode.shared.registry.inner["agent-peer"]?=none :=
  silent_agents_expire Mac.recorded sampleConfig sampleConfig_validated (Mesh.init_initial _)
    peerHeard _ .ascending 120000000002 "agent-peer" (Option.some_get _).symm
    (Option.some_get _).symm (Option.some_get _).symm (by decide +kernel) (by decide +kernel)

end MeshPresence.RegistryRefinement
