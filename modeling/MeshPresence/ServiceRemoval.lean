import MeshPresence.AgentListener
import MeshPresence.AnnouncementInvariant

/-!
# What a removed service leaves behind

Records are keyed by the agent identifier of the TXT data, while a removal looks
for the full name among the instance names and stops at the first match. Each
record is traced to the full name of the resolution that wrote it last. A removal
then clears everything that came from a full name exactly when there is nothing
to clear, or the name is trimmed and a single record carries it.
-/

namespace MeshPresence.ServiceRemoval

open TextOperations FiniteMaps AgentTypes AgentWire AgentRegistry AgentListener
open AnnouncementInvariant AgentConfig

/-- A listening node and, for every identifier, the full name of the resolution
behind its most recent upsert; local upserts have none. -/
structure TracedNode where
  /-- The node itself. -/
  node : NodeState
  /-- Full names by agent identifier. -/
  source : String → Option String

/-- The sources after one operation. -/
def traceSource (mac : Mac) (listener : Listener) (t : TracedNode) :
    NodeOp → String → Option String
  | .browse (.serviceResolved service _) =>
    match t.node.listening,listener.admits mac service with
    | true,some announcement =>
      Function.update t.source announcement.agentId (some service.fullname)
    | _,_ => t.source
  | .upsertLocal announcement _ => Function.update t.source announcement.agentId none
  | _ => t.source

/-- One traced operation. -/
def TracedNode.step (mac : Mac) (listener : Listener) (t : TracedNode) (op : NodeOp) : TracedNode where
  node := NodeState.step mac listener t.node op
  source := traceSource mac listener t op

/-- A traced run from an empty registry. -/
def TracedNode.run (mac : Mac) (listener : Listener) (ttl : Duration) (ops : List NodeOp) :
    TracedNode :=
  ops.foldl (TracedNode.step mac listener)
    { node := { registry := Registry.new ttl, listening := true }, source := fun _ => none }

/-- Tracing does not interfere with the node. -/
theorem run_node (mac : Mac) (listener : Listener) (ttl : Duration) (ops : List NodeOp) :
    (TracedNode.run mac listener ttl ops).node=
      NodeState.run mac listener (Registry.new ttl) ops :=
  (List.foldl_hom TracedNode.node fun _ _ => rfl).symm

/-- Right after the removal of a full name no record remains that came from it,
whatever the iteration order. -/
def LeavesNothing (mac : Mac) (listener : Listener) (t : TracedNode) (fullname : String) : Prop :=
  ∀ (serviceType : String) (order : AgentOrder) (id : String) (agent : AgentInfo),
    (listener.handle mac t.node.registry (.serviceRemoved serviceType fullname order)).inner[id]?=
      some agent → t.source id ≠ some fullname

/-- A record carries an instance name. -/
def Bears (r : Registry) (name id : String) : Prop :=
  ∃ agent : AgentInfo, r.inner[id]?=some agent ∧ agent.instanceName=name

/-- Instance names of the records: the trimmed full name of the resolution behind
them, or the local one. -/
def Named (listener : Listener) (t : TracedNode) : Prop :=
  ∀ (id : String) (agent : AgentInfo), t.node.registry.inner[id]?=some agent →
    agent.instanceName=((t.source id).map trim).getD listener.localInstanceName

/-- A resolved service is announced under its trimmed full name. -/
theorem fromResolvedService_instanceName {service : ResolvedService} {a : AgentAnnouncement}
    (h : fromResolvedService service=.ok a) : a.instanceName=trim service.fullname := by
  obtain ⟨_,_,_,_,_,_,_,-,-,-,-,-,-,-,hnew⟩ := fromTxtProperties_new h
  exact (new_ok hnew).2.1

/-- An upsert whose instance name fits its source keeps the records named. -/
theorem Named.upsert {listener : Listener} {t t' : TracedNode} (h : Named listener t)
    {a : AgentAnnouncement} {now : Instant} {origin : EventOrigin} (source : Option String)
    (hregistry : t'.node.registry=(t.node.registry.upsertWithOriginAt a now origin).2)
    (hsource : t'.source=Function.update t.source a.agentId source)
    (hname : a.instanceName=(source.map trim).getD listener.localInstanceName) :
    Named listener t' := by
  intro id agent hid
  rw [hregistry] at hid
  by_cases he : a.agentId=id
  · subst he
    rw [upsertWithOriginAt_same] at hid
    cases hid
    rw [hsource,Function.update_self]
    exact hname
  · rw [upsertWithOriginAt_other _ now origin he] at hid
    rw [hsource,Function.update_of_ne (Ne.symm he)]
    exact h id agent hid

/-- An operation that adds no record and traces nothing keeps the records named. -/
theorem Named.subset {listener : Listener} {t t' : TracedNode} (h : Named listener t)
    (hregistry : ∀ (id : String) (agent : AgentInfo), t'.node.registry.inner[id]?=some agent →
      t.node.registry.inner[id]?=some agent)
    (hsource : t'.source=t.source) : Named listener t' := by
  intro id agent hid
  rw [hsource]
  exact h id agent (hregistry id agent hid)

/-- A running listener keeps the records named. -/
theorem Named.browse {mac : Mac} {listener : Listener} {t : TracedNode} (h : Named listener t)
    (hl : t.node.listening=true) (event : BrowseEvent) :
    Named listener (TracedNode.step mac listener t (.browse event)) := by
  have hregistry : (TracedNode.step mac listener t (.browse event)).node.registry=
      listener.handle mac t.node.registry event := by
    simp only [TracedNode.step,NodeState.step,hl,if_true]
  cases event with
  | serviceResolved service now =>
    rw [handle_serviceResolved] at hregistry
    cases ha : listener.admits mac service with
    | none =>
      refine h.subset (fun id agent hid => ?_) ?_
      · rwa [hregistry,ha] at hid
      · simp only [TracedNode.step,traceSource,hl,ha]
    | some a =>
      rw [ha] at hregistry
      refine h.upsert (some service.fullname) hregistry ?_ ?_
      · simp only [TracedNode.step,traceSource,hl,ha]
      · exact fromResolvedService_instanceName (admits_some ha).1
  | serviceRemoved serviceType name order =>
    refine h.subset (fun id agent hid => ?_) rfl
    rw [hregistry,Listener.handle] at hid
    split at hid
    · exact removeRemoteByInstanceName_subset _ hid
    · exact hid
  | searchStarted _ | searchStopped _ | serviceFound _ _ | other | channelClosed =>
    refine h.subset (fun id agent hid => ?_) rfl
    rw [hregistry] at hid
    exact hid

/-- Every operation keeps the records named, when local upserts carry the local
instance name. -/
theorem Named.step {mac : Mac} {listener : Listener} {t : TracedNode} (h : Named listener t)
    {op : NodeOp}
    (hlocal : ∀ a now, op=.upsertLocal a now → a.instanceName=listener.localInstanceName) :
    Named listener (TracedNode.step mac listener t op) := by
  cases op with
  | upsertLocal a now => exact h.upsert none rfl rfl (hlocal a now rfl)
  | evictStale order now =>
    exact h.subset (fun id agent hid => evictStaleAt_subset t.node.registry hid) rfl
  | browse event =>
    cases hl : t.node.listening with
    | true => exact h.browse hl event
    | false =>
      refine h.subset (fun id agent hid => ?_) ?_
      · simpa only [TracedNode.step,NodeState.step,hl,Bool.false_eq_true,if_false] using hid
      · cases event <;> simp only [TracedNode.step,traceSource,hl]

/-- The records of every run are named. -/
theorem Named.run (mac : Mac) (listener : Listener) (ttl : Duration) (ops : List NodeOp)
    (hlocal : ∀ a now, NodeOp.upsertLocal a now ∈ ops →
      a.instanceName=listener.localInstanceName) :
    Named listener (TracedNode.run mac listener ttl ops) := by
  refine List.foldlRecOn ops (TracedNode.step mac listener) (fun id agent hid => ?_)
    fun t h op hop => h.step fun a now he => hlocal a now (he ▸ hop)
  simp only [Registry.new,Std.ExtTreeMap.getElem?_empty,reduceCtorEq] at hid

/-- A record that came from a full name bears it, trimmed. -/
theorem Named.bears {listener : Listener} {t : TracedNode} (h : Named listener t) {id : String}
    {agent : AgentInfo} (hid : t.node.registry.inner[id]?=some agent) {fullname : String}
    (hsource : t.source id=some fullname) : agent.instanceName=trim fullname := by
  rw [h id agent hid,hsource]
  rfl

/-- A name that is not trimmed and not the local one is borne by no record. -/
theorem Named.not_bears {listener : Listener} {t : TracedNode} (h : Named listener t)
    {fullname : String} (hlocal : fullname ≠ listener.localInstanceName)
    (htrim : ¬Trimmed fullname) (id : String) : ¬Bears t.node.registry fullname id := by
  rintro ⟨agent,hid,hname⟩
  have hnamed := h id agent hid
  cases hs : t.source id with
  | none =>
    rw [hs] at hnamed
    exact hlocal (hname.symm.trans hnamed)
  | some other =>
    rw [h.bears hid hs] at hname
    exact htrim (hname ▸ trimmed_trim other)

/-- The removal meets a chosen bearer of the name first in some iteration order. -/
theorem exists_order_removes (r : Registry) {name id : String} (h : Bears r name id) :
    ∃ order, r.removeRemoteByInstanceName order name=
      r.removeWithOrigin id .remoteOrigin .graceful := by
  obtain ⟨agent,hid,hname⟩ := h
  refine ⟨Iteration.startingWith id,?_⟩
  rw [Registry.removeRemoteByInstanceName,
    Iteration.find_startingWith hid (decide_eq_true hname)]

section Removal

variable {mac : Mac} {listener : Listener} {t : TracedNode} {fullname : String}

/-- The listener looks a removed service up unless it is the local one. -/
theorem handle_serviceRemoved (hname : fullname ≠ listener.localInstanceName) (r : Registry)
    (serviceType : String) (order : AgentOrder) :
    listener.handle mac r (.serviceRemoved serviceType fullname order)=
      (r.removeRemoteByInstanceName order fullname).2 := by
  simp only [Listener.handle,ne_eq,hname,not_false_eq_true,if_true]

/-- When nothing is left behind although some record came from the full name, the
full name is trimmed. -/
theorem LeavesNothing.trimmed (h : LeavesNothing mac listener t fullname)
    (hnamed : Named listener t) (hname : fullname ≠ listener.localInstanceName) {id : String}
    {agent : AgentInfo} (hid : t.node.registry.inner[id]?=some agent)
    (hsource : t.source id=some fullname) : Trimmed fullname := by
  by_contra htrim
  refine h "" Iteration.ascending id agent ?_ hsource
  rw [handle_serviceRemoved hname]
  rcases removeRemoteByInstanceName_cases t.node.registry Iteration.ascending fullname with
    ⟨-,he⟩|⟨other,bearer,hother,hbearer,-⟩
  · rw [he]
    exact hid
  · exact absurd ⟨bearer,hother,hbearer⟩ (hnamed.not_bears hname htrim other)

/-- When nothing is left behind, a record that came from the full name is the only
one that bears it: the removal may meet any bearer first. -/
theorem LeavesNothing.unique (h : LeavesNothing mac listener t fullname)
    (hname : fullname ≠ listener.localInstanceName) {id : String} {agent : AgentInfo}
    (hid : t.node.registry.inner[id]?=some agent) (hsource : t.source id=some fullname)
    {other : String} (hother : Bears t.node.registry fullname other) : other=id := by
  by_contra hne
  obtain ⟨order,horder⟩ := exists_order_removes t.node.registry hother
  refine h "" order id agent ?_ hsource
  rw [handle_serviceRemoved hname,horder,removeWithOrigin_other _ _ _ hne]
  exact hid

/-- A single bearer of a trimmed full name is removed. -/
theorem Named.leavesNothing (h : Named listener t) (hname : fullname ≠ listener.localInstanceName)
    (htrim : Trimmed fullname) (hunique : ∃! id, Bears t.node.registry fullname id) :
    LeavesNothing mac listener t fullname := by
  intro serviceType order id agent hid hsource
  rw [handle_serviceRemoved hname] at hid
  have hbefore := removeRemoteByInstanceName_subset t.node.registry hid
  have hbearer : agent.instanceName=fullname := (h.bears hbefore hsource).trans htrim
  have hbears : Bears t.node.registry fullname id := ⟨agent,hbefore,hbearer⟩
  rcases removeRemoteByInstanceName_cases t.node.registry order fullname with
    ⟨hnone,-⟩|⟨removed,bearer,hremoved,hborne,he⟩
  · exact hnone id agent hbefore hbearer
  · have hsame : removed=id := hunique.unique ⟨bearer,hremoved,hborne⟩ hbears
    rw [he,hsame,removeWithOrigin_same] at hid
    cases hid

end Removal

/-- In every reachable state and for every full name other than the local one:
the removal of the full name leaves no record that came from it, in any iteration
order, exactly when there is none, or the name is trimmed and a single record
bears it. -/
theorem leavesNothing_iff (mac : Mac) (listener : Listener) (ttl : Duration) (ops : List NodeOp)
    (hlocal : ∀ a now, NodeOp.upsertLocal a now ∈ ops →
      a.instanceName=listener.localInstanceName)
    (fullname : String) (hname : fullname ≠ listener.localInstanceName) :
    let t := TracedNode.run mac listener ttl ops
    LeavesNothing mac listener t fullname ↔
      (∀ (id : String) (agent : AgentInfo), t.node.registry.inner[id]?=some agent →
        t.source id ≠ some fullname) ∨
      (Trimmed fullname ∧ ∃! id, Bears t.node.registry fullname id) := by
  intro t
  have hnamed : Named listener t := Named.run mac listener ttl ops hlocal
  constructor
  · intro h
    by_cases hnone : ∀ (id : String) (agent : AgentInfo), t.node.registry.inner[id]?=some agent →
        t.source id ≠ some fullname
    · exact Or.inl hnone
    · push Not at hnone
      obtain ⟨id,agent,hid,hsource⟩ := hnone
      have htrim : Trimmed fullname := h.trimmed hnamed hname hid hsource
      have hbearer : agent.instanceName=fullname := (hnamed.bears hid hsource).trans htrim
      exact Or.inr ⟨htrim,id,⟨agent,hid,hbearer⟩,fun other => h.unique hname hid hsource⟩
  · rintro (hnone|⟨htrim,hunique⟩)
    · intro serviceType order id agent hid
      rw [handle_serviceRemoved hname] at hid
      exact hnone id agent (removeRemoteByInstanceName_subset t.node.registry hid)
    · exact hnamed.leavesNothing hname htrim hunique

/-- One full name is resolved under two agent identifiers. -/
def twoIdentities : List NodeOp :=
  [.browse (.serviceResolved (samplePeer "agent-a" "none") 1),
   .browse (.serviceResolved (samplePeer "agent-b" "none") 2)]

/-- The listener of the small configuration. -/
def sampleListener : Listener := Listener.ofConfig sampleConfig

/-- The condition decides the removal after both resolutions. -/
theorem leavesNothing_iff_twoIdentities :
    let t := TracedNode.run Mac.recorded sampleListener sampleConfig.ttl twoIdentities
    LeavesNothing Mac.recorded sampleListener t "agent-peer._agent-mesh._tcp.local." ↔
      (∀ (id : String) (agent : AgentInfo), t.node.registry.inner[id]?=some agent →
        t.source id ≠ some "agent-peer._agent-mesh._tcp.local.") ∨
      (Trimmed "agent-peer._agent-mesh._tcp.local." ∧
        ∃! id, Bears t.node.registry "agent-peer._agent-mesh._tcp.local." id) := by
  have hlocal : ∀ a now, NodeOp.upsertLocal a now ∈ twoIdentities →
      a.instanceName=sampleListener.localInstanceName := by
    intro a now h
    simp only [twoIdentities,List.mem_cons,reduceCtorEq,List.not_mem_nil,or_false] at h
  have h := leavesNothing_iff Mac.recorded sampleListener sampleConfig.ttl twoIdentities hlocal
    "agent-peer._agent-mesh._tcp.local." (by decide +kernel)
  exact h

/-- After the removal of the shared full name one of the two records remains. -/
theorem removal_leaves_second_identity :
    "agent-peer._agent-mesh._tcp.local." ≠ sampleListener.localInstanceName ∧
    ¬LeavesNothing Mac.recorded sampleListener
      (TracedNode.run Mac.recorded sampleListener sampleConfig.ttl twoIdentities)
      "agent-peer._agent-mesh._tcp.local." := by
  refine ⟨by decide +kernel,fun h => ?_⟩
  have hremains : (sampleListener.handle Mac.recorded
      (TracedNode.run Mac.recorded sampleListener sampleConfig.ttl twoIdentities).node.registry
      (samplePeerRemoved Iteration.ascending)).inner["agent-b"]?.isSome=true := by decide +kernel
  have hsource : (TracedNode.run Mac.recorded sampleListener sampleConfig.ttl twoIdentities).source
      "agent-b"=some "agent-peer._agent-mesh._tcp.local." := by decide +kernel
  obtain ⟨agent,hagent⟩ := Option.isSome_iff_exists.mp hremains
  exact h "_agent-mesh._tcp.local." Iteration.ascending "agent-b" agent hagent hsource

end MeshPresence.ServiceRemoval
