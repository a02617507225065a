import MeshPresence.AgentListener

/-!
# A verifying listener admits only verified peers

Under settings that verify, every record that is not the local one carries a
payload that verifies. Upserts are the only way into the registry, the refresh
path keeps a payload only when the verified announcement equals it, and removals
and sweeps add nothing. This holds after any mixture of browse events, upserts
of the local agent and sweeps.
-/

namespace MeshPresence.ListenerAdmission

open FiniteMaps AgentTypes AgentConfig AgentWire AgentRegistry AgentListener

/-- Every record under another identifier than the local one verifies. -/
def Admitted (mac : Mac) (auth : SharedSecretAuth) (localAgentId : String) (r : Registry) : Prop :=
  ∀ (id : String) (agent : AgentInfo), r.inner[id]?=some agent → id ≠ localAgentId →
    verifySharedSecretAuth mac agent.payload auth=.ok ()

/-- An upsert of an announcement that is local or verifies keeps the registry
admitted. -/
theorem Admitted.upsert {mac : Mac} {auth : SharedSecretAuth} {localAgentId : String}
    {r : Registry} (h : Admitted mac auth localAgentId r) {a : AgentAnnouncement}
    (ha : a.agentId=localAgentId ∨ verifySharedSecretAuth mac a auth=.ok ()) (now : Instant)
    (origin : EventOrigin) :
    Admitted mac auth localAgentId (r.upsertWithOriginAt a now origin).2 := by
  intro id agent hid hne
  by_cases he : a.agentId=id
  · subst he
    rw [upsertWithOriginAt_same] at hid
    cases hid
    exact ha.resolve_left hne
  · rw [upsertWithOriginAt_other r now origin he] at hid
    exact h id agent hid hne

/-- Under verifying settings an announcement that is not rejected verifies. -/
theorem verify_of_not_rejected {mac : Mac} {listener : Listener} {auth : SharedSecretAuth}
    (hauth : listener.sharedSecretAuth=some auth) (hverify : auth.verifiesIncoming=true)
    {a : AgentAnnouncement} (h : listener.rejects mac a=false) :
    verifySharedSecretAuth mac a auth=.ok () := by
  simp only [Listener.rejects,hauth,hverify,Bool.true_and,Bool.not_eq_eq_eq_not,Bool.not_false] at h
  cases hv : verifySharedSecretAuth mac a auth with
  | ok result => rfl
  | error e =>
    rw [hv] at h
    cases h

/-- A browse event keeps the registry admitted. -/
theorem Admitted.handle {mac : Mac} {listener : Listener} {auth : SharedSecretAuth}
    (hauth : listener.sharedSecretAuth=some auth) (hverify : auth.verifiesIncoming=true)
    {r : Registry} (h : Admitted mac auth listener.localAgentId r) (event : BrowseEvent) :
    Admitted mac auth listener.localAgentId (listener.handle mac r event) := by
  rcases handle_cases mac listener r event with he|⟨service,now,a,-,ha,he⟩|⟨_,name,order,-,-,he⟩ <;>
    rw [he]
  · exact h
  · obtain ⟨-,-,hreject⟩ := admits_some ha
    exact h.upsert (Or.inr (verify_of_not_rejected hauth hverify hreject)) now .remoteOrigin
  · exact fun id agent hid hne => h id agent (removeRemoteByInstanceName_subset r hid) hne

/-- Every operation of a listening node keeps the registry admitted, when local
upserts carry the local identifier. -/
theorem Admitted.step {mac : Mac} {listener : Listener} {auth : SharedSecretAuth}
    (hauth : listener.sharedSecretAuth=some auth) (hverify : auth.verifiesIncoming=true)
    {s : NodeState} (h : Admitted mac auth listener.localAgentId s.registry) {op : NodeOp}
    (hlocal : ∀ a now, op=.upsertLocal a now → a.agentId=listener.localAgentId) :
    Admitted mac auth listener.localAgentId (NodeState.step mac listener s op).registry := by
  cases op with
  | browse event =>
    rw [NodeState.step]
    split
    · exact h.handle hauth hverify event
    · exact h
  | upsertLocal a now => exact h.upsert (Or.inl (hlocal a now rfl)) now .localOrigin
  | evictStale order now =>
    exact fun id agent hid hne => h id agent (evictStaleAt_subset s.registry hid) hne

/-- A resolved service that does not parse or does not verify changes neither the
records nor the event log. -/
theorem handle_unverified {mac : Mac} {listener : Listener} {auth : SharedSecretAuth}
    (hauth : listener.sharedSecretAuth=some auth) (hverify : auth.verifiesIncoming=true)
    (r : Registry) {service : ResolvedService}
    (h : ∀ a, fromResolvedService service=.ok a → verifySharedSecretAuth mac a auth ≠ .ok ())
    (now : Instant) : listener.handle mac r (.serviceResolved service now)=r := by
  rw [handle_serviceResolved]
  cases ha : listener.admits mac service with
  | none => rfl
  | some a =>
    obtain ⟨hparse,-,hreject⟩ := admits_some ha
    exact absurd (verify_of_not_rejected hauth hverify hreject) (h a hparse)

/-- A listener in verifying mode, started on a registry with at most the local
record, admits only announcements that verify, in every state that browse
events, local upserts and sweeps can reach; services that do not parse or do
not verify leave such a state alone. -/
theorem only_verified_peers (mac : Mac) (listener : Listener) (auth : SharedSecretAuth)
    (hauth : listener.sharedSecretAuth=some auth) (hmode : auth.mode=.signAndVerify)
    (registry : Registry) (hinitial : ∀ (id : String) (agent : AgentInfo),
      registry.inner[id]?=some agent → id=listener.localAgentId)
    (ops : List NodeOp)
    (hlocal : ∀ a now, NodeOp.upsertLocal a now ∈ ops → a.agentId=listener.localAgentId) :
    let s := NodeState.run mac listener registry ops
    (∀ (id : String) (agent : AgentInfo), s.registry.inner[id]?=some agent →
      id ≠ listener.localAgentId → verifySharedSecretAuth mac agent.payload auth=.ok ()) ∧
    ∀ service now, (∀ a, fromResolvedService service=.ok a →
      verifySharedSecretAuth mac a auth ≠ .ok ()) →
      listener.handle mac s.registry (.serviceResolved service now)=s.registry := by
  have hverify : auth.verifiesIncoming=true := decide_eq_true hmode
  intro s
  refine ⟨?_,fun service now h => handle_unverified hauth hverify s.registry h now⟩
  have hstart : Admitted mac auth listener.localAgentId registry :=
    fun id agent hid hne => absurd (hinitial id agent hid) hne
  exact List.foldlRecOn (motive := fun s : NodeState =>
    Admitted mac auth listener.localAgentId s.registry) ops (NodeState.step mac listener) hstart
    fun s h op hop => h.step hauth hverify fun a now he => hlocal a now (he ▸ hop)

/-- A verified peer, a forged update of it, the local agent and a sweep. -/
def peerOps : List NodeOp :=
  [.browse (.serviceResolved
      (samplePeer "agent-peer" "X8pf8BXClj_eCWvlRrSxn82PjvvbnTbZ-PlKfnKstc4") 1),
   .browse (.serviceResolved (samplePeer "agent-peer" "forged") 2),
   .upsertLocal sampleAnnouncement 3,.evictStale Iteration.ascending 4]

/-- The listener of the small configuration with a shared secret. -/
def verifyingListener : Listener :=
  Listener.ofConfig (withSharedSecretAuth sampleConfig sampleAuth)

/-- After these operations the peer is known and every peer is verified. -/
theorem only_verified_peers_sample :
    let s := NodeState.run Mac.recorded verifyingListener (Registry.new sampleConfig.ttl) peerOps
    s.registry.inner["agent-peer"]?.isSome=true ∧
    (∀ (id : String) (agent : AgentInfo), s.registry.inner[id]?=some agent →
      id ≠ verifyingListener.localAgentId →
      verifySharedSecretAuth Mac.recorded agent.payload sampleAuth=.ok ()) ∧
    ∀ service now, (∀ a, fromResolvedService service=.ok a →
      verifySharedSecretAuth Mac.recorded a sampleAuth ≠ .ok ()) →
      verifyingListener.handle Mac.recorded s.registry (.serviceResolved service now)=
        s.registry := by
  have hinitial : ∀ (id : String) (agent : AgentInfo),
      (Registry.new sampleConfig.ttl).inner[id]?=some agent → id=verifyingListener.localAgentId := by
    intro id agent h
    simp only [Registry.new,Std.ExtTreeMap.getElem?_empty,reduceCtorEq] at h
  have hlocal : ∀ a now, NodeOp.upsertLocal a now ∈ peerOps →
      a.agentId=verifyingListener.localAgentId := by
    intro a now h
    simp only [peerOps,List.mem_cons,NodeOp.upsertLocal.injEq,reduceCtorEq,List.not_mem_nil,
      or_false,false_or] at h
    rw [h.1]
    rfl
  have h := only_verified_peers Mac.recorded verifyingListener sampleAuth rfl rfl
    (Registry.new sampleConfig.ttl) hinitial peerOps hlocal
  exact ⟨by decide +kernel,h⟩

end MeshPresence.ListenerAdmission
