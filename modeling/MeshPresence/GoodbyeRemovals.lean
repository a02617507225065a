import MeshPresence.PeerProvenance

/-!
# Goodbyes on a network without foreign services

A removal clears one record that carries the removed name. Several records can carry a name
only when services under the name disagree about the identifier. Nodes announce their
identity alone, so where no other program publishes services and names tell identifiers
apart, a removal clears all there is under the name, whatever happened before.
-/

namespace MeshPresence.GoodbyeRemovals

open TextOperations GuardedRuns AgentTypes AgentConfig AgentWire AgentRegistry AgentListener
open MeshRuntime LocalEntry ServiceTransport MeshNetwork PeerProvenance

/-- The names of registered services tell identifiers apart. -/
def TellsApart {ι : Type} (transport : Transport) (net : Network ι) : Prop :=
  ∀ r ∈ net.registered, ∀ s ∈ net.registered,
    trim (transport.fullname r.service)=trim (transport.fullname s.service) →
      r.config.agentId=s.config.agentId

instance {ι : Type} (transport : Transport) (net : Network ι) :
    Decidable (TellsApart transport net) :=
  inferInstanceAs (Decidable (∀ r ∈ net.registered, ∀ s ∈ net.registered,
    trim (transport.fullname r.service)=trim (transport.fullname s.service) →
      r.config.agentId=s.config.agentId))

section Networks

variable {ι : Type} {mac : Mac} {transport : Transport} {net : Network ι} {i : ι}
  {m : Mesh}

/-- On such a network two records with one name, which is not the local one, are one record. -/
theorem Traced.unique (h : Traced mac transport net) (hclosed : net.foreign=[])
    (harrives : ∀ r ∈ net.registered, Arrives transport r.service)
    (hnames : TellsApart transport net) (hnode : net.nodes i=some m) {id id' : String}
    {agent agent' : AgentInfo} (ha : m.shared.registry.inner[id]?=some agent)
    (ha' : m.shared.registry.inner[id']?=some agent')
    (hname : agent.instanceName=agent'.instanceName)
    (hother : agent'.instanceName ≠ m.config.instanceName) : id=id' := by
  have hentry := (h.nodes i m hnode).identity.entry
  have hannounced : ∀ (id : String) (agent : AgentInfo),
      m.shared.registry.inner[id]?=some agent → agent.instanceName=agent'.instanceName →
      ∃ r ∈ net.registered, r.config.agentId=id ∧
        agent.instanceName=trim (transport.fullname r.service) := by
    intro id agent ha hname
    have hne : id ≠ m.config.agentId := by
      rintro rfl
      exact hother (hname.symm.trans (hentry agent ha))
    obtain ⟨-,⟨service,hm,-⟩|⟨r,hr,-,htrim,-,hcarried⟩⟩ := h.announced hnode ha hne
    · rw [hclosed] at hm
      exact absurd hm List.not_mem_nil
    · exact ⟨r,hr,(hcarried (harrives r hr)).1,htrim⟩
  obtain ⟨r,hr,hid,hrname⟩ := hannounced id agent ha hname
  obtain ⟨s,hs,hid',hsname⟩ := hannounced id' agent' ha' rfl
  rw [←hid,←hid']
  exact hnames r hr s hs (hrname.symm.trans (hname.trans hsname))

/-- On every reachable network without foreign services on which what was registered arrives and
names tell identifiers apart, the removal of a name that is not the local one leaves a node with
exactly the records that do not carry the name. -/
theorem goodbyes_complete [DecidableEq ι] (mac : Mac) (transport : Transport)
    (actions : List (NetworkAction ι)) (net : Network ι)
    (hrun : exec (Network.step mac transport) (Network.empty ι) actions=some net)
    (hclosed : net.foreign=[]) (harrives : ∀ r ∈ net.registered, Arrives transport r.service)
    (hnames : TellsApart transport net) (i : ι) (m m' : Mesh)
    (hnode : net.nodes i=some m) (serviceType name : String) (order : AgentOrder)
    (hother : name ≠ m.config.instanceName)
    (hs : MeshRuntime.step mac m (.task (.browse (.serviceRemoved serviceType name order)))=
      some m') (id : String) (agent : AgentInfo) :
    m'.shared.registry.inner[id]?=some agent ↔
      m.shared.registry.inner[id]?=some agent ∧ agent.instanceName ≠ name := by
  have htraced := Traced.run hrun
  have hregistry : m'.shared.registry=
      (m.shared.registry.removeRemoteByInstanceName order name).2 := by
    have hstep : m.taskStep mac (.browse (.serviceRemoved serviceType name order))=some m' := hs
    rw [Mesh.taskStep] at hstep
    split at hstep
    · cases hstep
      have hlocal : name ≠ (Listener.ofConfig m.config).localInstanceName := hother
      simp only [Listener.handle,if_pos hlocal]
    · cases hstep
  rw [hregistry]
  rcases removeRemoteByInstanceName_cases m.shared.registry order name with
    ⟨hnone,he⟩|⟨removed,found,hfound,hname,he⟩
  · rw [he]
    exact ⟨fun ha => ⟨ha,hnone id agent ha⟩,And.left⟩
  · rw [he]
    by_cases hid : removed=id
    · subst hid
      rw [removeWithOrigin_same]
      constructor
      · intro ha
        cases ha
      · rintro ⟨ha,hne⟩
        cases hfound.symm.trans ha
        exact absurd hname hne
    · rw [removeWithOrigin_other m.shared.registry .remoteOrigin .graceful hid]
      refine ⟨fun ha => ⟨ha,fun hsame => ?_⟩,And.left⟩
      exact hid (Traced.unique htraced hclosed harrives hnames hnode ha hfound (hsame.trans hname.symm)
        (hname.symm ▸ hother)).symm

end Networks

/-- The listening node of the meeting when the other node is gone. -/
def leftAlone : Mesh :=
  (step Mac.recorded greeter (.task (.browse (.serviceRemoved "_agent-mesh._tcp.local."
    "agent-a._agent-mesh._tcp.local." .ascending)))).get (by decide +kernel)

/-- The record under the removed name is gone, and only records under other names are left. -/
theorem goodbyes_complete_meeting : greeter.shared.registry.inner["agent-a"]?.isSome=true ∧
    leftAlone.shared.registry.inner["agent-a"]?=none ∧ ∀ (id : String) (agent : AgentInfo),
      leftAlone.shared.registry.inner[id]?=some agent ↔
        greeter.shared.registry.inner[id]?=some agent ∧
          agent.instanceName ≠ "agent-a._agent-mesh._tcp.local." := by
  refine ⟨by decide +kernel,by decide +kernel,?_⟩
  exact goodbyes_complete Mac.recorded plainTransport firstMeeting meeting (Option.some_get _).symm
    (by decide +kernel) (fun r _ => arrives_plainTransport r.service) (by decide +kernel) true
    greeter leftAlone (Option.some_get _).symm
    "_agent-mesh._tcp.local." "agent-a._agent-mesh._tcp.local." .ascending (by decide +kernel)
    (Option.some_get _).symm

end MeshPresence.GoodbyeRemovals
