import MeshPresence.CurrentAnnouncement
import MeshPresence.ExactEviction
import MeshPresence.SignedFields

/-!
# What others see of a quiet node

A node that announces in order and on which nothing is in progress has registered its
current announcement. When this conforms to the transport and is resolved at another node that
accepts it, the other node lists the announced fields, whatever else went on before. It goes on
to list them until the record is removed under its name, is found stale by a sweep, or another
service with the identifier is resolved there, however often the announcement is resolved again
and whatever the other nodes do.
-/

namespace MeshPresence.PeerViews

open TextOperations FiniteMaps GuardedRuns NodeFamilies FirstOccurrences AgentTypes
open AgentConfig AgentWire AgentRegistry AgentListener AnnouncementInvariant WireRoundTrip
open SignatureVerification SignedFields KeyShadowing RegistryJournal ExactEviction MeshRuntime
open MeshEffects LocalEntry ServiceTransport MeshNetwork PeerProvenance CurrentAnnouncement

/-- The keys that are sent differ by more than ASCII case. -/
def CaseDistinct (a : AgentAnnouncement) : Prop :=
  ∀ key ∈ (canonicalMetadata a).keys, ∀ other ∈ (canonicalMetadata a).keys,
    toAsciiLowercase key=toAsciiLowercase other → key=other

instance (a : AgentAnnouncement) : Decidable (CaseDistinct a) :=
  inferInstanceAs (Decidable (∀ key ∈ (canonicalMetadata a).keys,
    ∀ other ∈ (canonicalMetadata a).keys,
    toAsciiLowercase key=toAsciiLowercase other → key=other))

section Reception

variable {a b : AgentAnnouncement} {addresses : List IpAddr}

/-- Distinct keys all arrive. -/
theorem CaseDistinct.received (h : CaseDistinct a) (ha : WellFormed a) (addresses : List IpAddr) :
    received a addresses=.ok { a with addresses, metadata := canonicalMetadata a } := by
  have hm := canonicalMetadata_mirrors a
  have hdecode := metadataFromTxtProperties_transported a
  rw [rebuildFirst_eq_self toAsciiLowercase fun key hkey other hother =>
    h key (Std.ExtTreeMap.mem_keys.mpr hkey) other (Std.ExtTreeMap.mem_keys.mpr hother)] at hdecode
  have hdecoded := fromTxtProperties_of_metadata ha hdecode hm.agentId hm.role hm.project hm.branch
    hm.status (canonicalMetadata_noBlankKey ha.keys)
    (capabilitiesFromMetadata_canonicalMetadata ha.capabilities) addresses
  rw [KeyShadowing.received,hdecoded,sync_canonicalMetadata]

/-- An announcement that carries its tag verifies where it arrives whole, when the secret is
accepted there. -/
theorem CaseDistinct.verifies (h : CaseDistinct a) (ha : WellFormed a) {mac : Mac}
    {signer auth : SharedSecretAuth} (hsigned : SelfSigned mac signer a)
    (hsecret : signer.signingSecret ∈ auth.verificationSecrets)
    (hb : KeyShadowing.received a addresses=.ok b) : verifySharedSecretAuth mac b auth=.ok () := by
  have hm := canonicalMetadata_mirrors a
  cases (h.received ha addresses).symm.trans hb
  refine verifySharedSecretAuth_of_tag signer.signingSecret ?_ ?_ hsecret
  · exact (hm.other _ (by decide)).trans hsigned.scheme
  · rw [signaturePayload_congr a addresses fun key hkey =>
      hm.other key (isSignedKey_canonical hkey)]
    exact (hm.other _ (by decide)).trans hsigned.signature

/-- All typed fields of an unshadowed announcement arrive. -/
theorem sameFields_of_received (h : Unshadowed a) (ha : WellFormed a)
    (hb : KeyShadowing.received a addresses=.ok b) : SameFields a b := by
  obtain ⟨c,hc,-,-,-,-,-,hcapabilities⟩ := h.delivered ha addresses
  cases hb.symm.trans hc
  obtain ⟨hcarried,hname,-⟩ := received_carried ha hb
  exact ⟨(hname.trans ha.instanceName.1).symm,hcarried.agentId.symm,hcarried.role.symm,
    hcarried.project.symm,hcarried.branch.symm,hcarried.status.symm,hcapabilities.symm,
    hcarried.port.symm⟩

end Reception

/-- An observer accepts what a peer announces of itself. -/
structure Accepts (observer : ZeroConfConfig) (peer : Mesh) : Prop where
  /-- The identifiers differ. -/
  other : peer.config.agentId ≠ observer.agentId
  /-- No metadata key displaces a canonical one on the way. -/
  unshadowed : Unshadowed peer.shared.localAgent
  /-- When the observer verifies, the peer signs with an accepted secret, and no signed entry is
  displaced on the way. -/
  verified : ∀ auth, observer.sharedSecretAuth=some auth → auth.mode=.signAndVerify →
    CaseDistinct peer.shared.localAgent ∧ ∃ signer, peer.config.sharedSecretAuth=some signer ∧
      signer.signingSecret ∈ auth.verificationSecrets

section Admission

variable {mac : Mac} {transport : Transport} {observer : ZeroConfConfig} {peer : Mesh}

/-- The current announcement of a node. -/
def currently (peer : Mesh) : Registration :=
  { config := peer.config, announcement := peer.shared.localAgent }

/-- A registered service arrives under the instance name of its announcement. -/
structure ArrivesNamed (transport : Transport) (r : Registration) : Prop where
  /-- Its full name. -/
  name : transport.fullname r.service=r.announcement.instanceName
  /-- Its port and properties. -/
  arrives : Arrives transport r.service

/-- A conforming service of a node arrives under its instance name. -/
theorem ArrivesNamed.of_conforms (hlawful : transport.Lawful) {r : Registration}
    (hlocal : IsLocal r.config r.announcement) (h : Conforms transport r.service) :
    ArrivesNamed transport r := by
  refine ⟨?_,hlawful.arrives h.properties⟩
  rw [hlawful.fullname r.service h.name h.unclaimed,hlocal.2,ZeroConfConfig.instanceName,←hlocal.1]
  rfl

/-- It is decoded as the announcement is received. -/
theorem ArrivesNamed.decoded {r : Registration} (h : ArrivesNamed transport r)
    (addresses : List IpAddr) : fromResolvedService (r.service.resolved transport addresses)=
      KeyShadowing.received r.announcement addresses := by
  have harrives := fromResolvedService_arrives h.arrives addresses
  have hname : transport.fullname (toServiceInfo r.announcement r.config.serviceType
      r.config.hostName)=r.announcement.instanceName := h.name
  rw [hname] at harrives
  exact harrives

/-- The listener admits the current announcement with all typed fields. -/
theorem Accepts.admits (h : Accepts observer peer) (hpeer : Honest peer)
    (hsigned : ∀ auth, peer.config.sharedSecretAuth=some auth →
      SelfSigned mac auth peer.shared.localAgent)
    (harrives : ArrivesNamed transport (currently peer))
    (addresses : List IpAddr) : ∃ b, (Listener.ofConfig observer).admits mac
      ((currently peer).service.resolved transport addresses)=some b := by
  have hwf : WellFormed peer.shared.localAgent := hpeer.wellFormed.localAgent
  obtain ⟨b,hb,hid,-⟩ := h.unshadowed.delivered hwf addresses
  have hparse := harrives.decoded addresses
  have hother : b.agentId ≠ (Listener.ofConfig observer).localAgentId := by
    rw [hid,show peer.shared.localAgent.agentId=peer.config.agentId from
      hpeer.identity.localAgent.1]
    exact h.other
  have haccepted : (Listener.ofConfig observer).rejects mac b=false := by
    unfold Listener.rejects
    cases hauth : (Listener.ofConfig observer).sharedSecretAuth with
    | none => rfl
    | some auth =>
      cases hmode : auth.verifiesIncoming with
      | false => simp only [hmode,Bool.false_and]
      | true =>
        obtain ⟨hdistinct,signer,hsigner,hsecret⟩ :=
          h.verified auth hauth (of_decide_eq_true hmode)
        have hverified := hdistinct.verifies hwf (hsigned signer hsigner) hsecret hb
        simp only [hverified,Except.isOk,Except.toBool,Bool.not_true,Bool.and_false]
  refine ⟨b,?_⟩
  rw [Listener.admits,hparse,show KeyShadowing.received (currently peer).announcement addresses=
    .ok b from hb]
  simp only [hother,haccepted,if_false,Bool.false_eq_true]

end Admission

/-- A step of an observer that spares a record: it is not removed under its name and not found
stale. -/
def spares (id : String) (m : Mesh) : Action → Bool
  | .task (.browse (.serviceRemoved _ name _)) =>
    m.shared.registry.inner[id]?.all fun agent => agent.instanceName ≠ name
  | .task (.sweep _ now) =>
    m.shared.registry.inner[id]?.all fun agent => !isStale agent now m.shared.registry.ttl
  | _ => true

section Steps

variable {mac : Mac} {m m' : Mesh} {action : Action} {id : String} {agent : AgentInfo}

/-- A removal under another name leaves a record alone. -/
theorem removeRemoteByInstanceName_other {r : Registry} (order : AgentOrder) {name : String}
    (ha : r.inner[id]?=some agent) (hname : agent.instanceName ≠ name) :
    (r.removeRemoteByInstanceName order name).2.inner[id]?=some agent := by
  rcases removeRemoteByInstanceName_cases r order name with ⟨-,he⟩|⟨removed,found,hfound,hn,he⟩
  · rw [he]
    exact ha
  · have hne : removed ≠ id := by
      rintro rfl
      cases hfound.symm.trans ha
      exact hname hn
    rw [he,removeWithOrigin_other r .remoteOrigin .graceful hne]
    exact ha

/-- A step that spares the record of a peer keeps it or replaces it by that of a resolved service
with the identifier. -/
theorem step_spares (h : Honest m) (hs : MeshRuntime.step mac m action=some m')
    (hspares : spares id m action=true) (hne : id ≠ m.config.agentId)
    (ha : m.shared.registry.inner[id]?=some agent) :
    m'.shared.registry.inner[id]?=some agent ∨ ∃ service now b, action=resolution service now ∧
      fromResolvedService service=.ok b ∧ b.agentId=id ∧
      m'.shared.registry.inner[id]?=some (intoAgentInfo b now) := by
  cases step_effect hs with
  | quiet shared | abandon snapshot error source shared | skip discovery shared
    | mutate i call source hcall succeeds shared | clone tick waiting shared
    | announce snapshot source shared | withdraw announcement source shared =>
    exact Or.inl (by rw [shared]; exact ha)
  | refresh advertises shared =>
    rw [shared,Shared.copied,(sign_frame mac m.shared m.config.sharedSecretAuth).1]
    exact Or.inl ha
  | upsert snapshot now source shared work =>
    have hlocal := h.identity.copies _ (work.was _ rfl) _ rfl
    have hother : snapshot.announcement.agentId ≠ id := fun he => hne (he.symm.trans hlocal.1)
    rw [shared]
    exact Or.inl ((upsertWithOriginAt_other m.shared.registry now .localOrigin hother).trans ha)
  | browse event task shared =>
    rw [shared]
    rcases handle_cases mac (Listener.ofConfig m.config) m.shared.registry event with
      he|⟨service,now,b,rfl,hadmits,he⟩|⟨_,name,order,rfl,-,he⟩ <;> simp only [he]
    · exact Or.inl ha
    · by_cases hid : b.agentId=id
      · subst hid
        exact Or.inr ⟨service,now,b,task,(admits_some hadmits).1,rfl,
          upsertWithOriginAt_same m.shared.registry b now .remoteOrigin⟩
      · exact Or.inl
          ((upsertWithOriginAt_other m.shared.registry now .remoteOrigin hid).trans ha)
    · rw [task,spares,ha,Option.all_some,decide_eq_true_eq] at hspares
      exact Or.inl (removeRemoteByInstanceName_other order ha hspares)
  | sweep order now task shared =>
    rw [task,spares,ha,Option.all_some] at hspares
    rw [shared,getElem?_evictStaleAt,ha,Option.filter_some,hspares,if_pos rfl]
    exact Or.inl rfl
  | remove _ source =>
    rw [source] at hs
    have hmove : m.shutdownStep .remove=some m' := hs
    cases shutdownStep_cases hmove with
    | remove announcement hphase =>
      have hlocal := h.departing announcement (by rw [hphase]; rfl)
      have hother : announcement.agentId ≠ id := fun he => hne (he.symm.trans hlocal)
      exact Or.inl ((removeWithOrigin_other m.shared.registry .localOrigin .graceful hother).trans ha)

end Steps

/-- A node lists what an announcement of a registration was received as. -/
def Shows (transport : Transport) (r : Registration) (m : Mesh) : Prop :=
  ∃ (agent : AgentInfo) (addresses : List IpAddr),
    m.shared.registry.inner[r.announcement.agentId]?=some agent ∧
    fromResolvedService (r.service.resolved transport addresses)=.ok agent.payload

section Networks

variable {ι : Type} [DecidableEq ι] {mac : Mac} {transport : Transport}
  {net net' : Network ι} {action : NetworkAction ι} {i : ι} {r : Registration}

/-- A service is not decoded to an announcement of the agent of a registration. -/
def others (r : Registration) (service : ResolvedService) : Bool :=
  (fromResolvedService service).toOption.all fun b => b.agentId ≠ r.announcement.agentId

/-- A step of a network leaves the record of a peer at an observer to one registration. -/
def leavesTo (transport : Transport) (i : ι) (r : Registration) (net : Network ι) :
    NetworkAction ι → Bool
  | .build _ _ _ => true
  | .act k own => k ≠ i || (net.nodes k).all fun m => spares r.announcement.agentId m own
  | .deliver k n addresses _ => k ≠ i || net.registered[n]?.all fun other =>
      others r (other.service.resolved transport addresses) || other=r
  | .inject k service _ => k ≠ i || others r service
  | .vanish k => k ≠ i

/-- The guard of a run that leaves the record of a peer to one registration. -/
def LeavesTo (transport : Transport) (i : ι) (r : Registration) (net : Network ι)
    (action : NetworkAction ι) : Prop :=
  leavesTo transport i r net action=true

instance (transport : Transport) (i : ι) (r : Registration) (net : Network ι)
    (action : NetworkAction ι) : Decidable (LeavesTo transport i r net action) :=
  inferInstanceAs (Decidable (_=true))

/-- An observer that lists a registration of a peer, on a network in the invariant. -/
structure Observing (mac : Mac) (transport : Transport) (i : ι) (r : Registration)
    (net : Network ι) : Prop where
  /-- The network is in its invariant. -/
  traced : Traced mac transport net
  /-- The registration was made. -/
  registered : r ∈ net.registered
  /-- The observer is live, is not the peer and lists the registration. -/
  shown : ∃ m, net.nodes i=some m ∧ m.config.agentId ≠ r.announcement.agentId ∧ Shows transport r m

/-- A step of the observer itself. -/
theorem Shows.step {m m' : Mesh} {own : Action} (h : Shows transport r m) (hhonest : Honest m)
    (hother : m.config.agentId ≠ r.announcement.agentId)
    (hs : MeshRuntime.step mac m own=some m') (hspares : spares r.announcement.agentId m own=true)
    (hown : ∀ service now b, own=resolution service now → fromResolvedService service=.ok b →
      b.agentId=r.announcement.agentId →
      ∃ addresses, service=r.service.resolved transport addresses) : Shows transport r m' := by
  obtain ⟨agent,addresses,hagent,hdecoded⟩ := h
  rcases step_spares hhonest hs hspares hother.symm hagent with hkept|⟨service,now,b,he,hb,hid,hnow⟩
  · exact ⟨agent,addresses,hkept,hdecoded⟩
  · obtain ⟨again,rfl⟩ := hown service now b he hb hid
    exact ⟨intoAgentInfo b now,again,hnow,by rw [payload_intoAgentInfo]; exact hb⟩

/-- Every step that leaves the record to the registration keeps it listed. -/
theorem Observing.step (h : Observing mac transport i r net) (hg : LeavesTo transport i r net action)
    (hs : net.step mac transport action=some net') : Observing mac transport i r net' := by
  obtain ⟨htraced,hregistered,m,hm,hother,hshows⟩ := h
  have htraced' := htraced.step hs
  have hhonest := htraced.nodes i m hm
  unfold LeavesTo at hg
  cases step_cases hs with
  | build k generatedId builder config fresh free =>
    have hne : i ≠ k := by
      rintro rfl
      rw [free] at hm
      cases hm
    exact ⟨htraced',hregistered,m,(place_ne net.nodes _ hne).trans hm,hother,hshows⟩
  | act k own n n' hnode hown hmove =>
    refine ⟨htraced',List.mem_append_left _ hregistered,?_⟩
    by_cases hk : i=k
    · subst hk
      cases hm.symm.trans hnode
      rw [leavesTo,hm,Option.all_some,Bool.or_eq_true,decide_eq_true_eq] at hg
      have hspares := hg.resolve_left fun hne => hne rfl
      refine ⟨n',place_self net.nodes i (some n'),(step_frame hmove).config ▸ hother,
        hshows.step hhonest hother hmove hspares fun service now b he => ?_⟩
      rw [he] at hown
      cases hown
    · exact ⟨m,(place_ne net.nodes _ hk).trans hm,hother,hshows⟩
  | deliver k n addresses now other t t' hnode hsent hmove =>
    refine ⟨htraced',hregistered,?_⟩
    by_cases hk : i=k
    · subst hk
      cases hm.symm.trans hnode
      simp only [leavesTo,hsent,Option.all_some,Bool.or_eq_true,decide_eq_true_eq] at hg
      refine ⟨t',place_self net.nodes i (some t'),(step_frame hmove).config ▸ hother,
        hshows.step hhonest hother hmove rfl fun service time b he hb hid => ?_⟩
      cases he
      rcases (hg.resolve_left fun hne => hne rfl) with hothers|rfl
      · rw [others,hb,Except.toOption,Option.all_some,decide_eq_true_eq] at hothers
        exact absurd hid hothers
      · exact ⟨addresses,rfl⟩
    · exact ⟨m,(place_ne net.nodes _ hk).trans hm,hother,hshows⟩
  | inject k service now t t' hnode hmove =>
    refine ⟨htraced',hregistered,?_⟩
    by_cases hk : i=k
    · subst hk
      cases hm.symm.trans hnode
      rw [leavesTo,Bool.or_eq_true,decide_eq_true_eq] at hg
      have hforeign := hg.resolve_left fun hne => hne rfl
      refine ⟨t',place_self net.nodes i (some t'),(step_frame hmove).config ▸ hother,
        hshows.step hhonest hother hmove rfl fun other time b he hb hid => ?_⟩
      cases he
      rw [others,hb,Except.toOption,Option.all_some,decide_eq_true_eq] at hforeign
      exact absurd hid hforeign
    · exact ⟨m,(place_ne net.nodes _ hk).trans hm,hother,hshows⟩
  | vanish k =>
    rw [leavesTo,decide_eq_true_eq] at hg
    exact ⟨htraced',hregistered,m,(place_ne net.nodes _ (Ne.symm hg)).trans hm,hother,hshows⟩

/-- Where a current announcement is resolved, it is listed. -/
theorem Accepts.observing {observer peer m' : Mesh} (h : Accepts observer.config peer)
    (hpeer : Honest peer) (hsigned : ∀ auth, peer.config.sharedSecretAuth=some auth →
      SelfSigned mac auth peer.shared.localAgent)
    (harrives : ArrivesNamed transport (currently peer)) {addresses : List IpAddr} {now : Instant}
    (hs : MeshRuntime.step mac observer
      (resolution ((currently peer).service.resolved transport addresses) now)=some m') :
    Shows transport (currently peer) m' := by
  obtain ⟨b,hadmits⟩ := h.admits hpeer hsigned harrives addresses
  obtain ⟨hdecoded,-,-⟩ := admits_some hadmits
  obtain ⟨hcarried,-,-⟩ := received_carried hpeer.wellFormed.localAgent
    ((harrives.decoded addresses).symm.trans hdecoded)
  have hstep : observer.taskStep mac (.browse (.serviceResolved
      ((currently peer).service.resolved transport addresses) now))=some m' := hs
  rw [Mesh.taskStep] at hstep
  split at hstep
  · cases hstep
    refine ⟨intoAgentInfo b now,addresses,?_,by rw [payload_intoAgentInfo]; exact hdecoded⟩
    rw [handle_serviceResolved,hadmits]
    have hsame := upsertWithOriginAt_same observer.shared.registry b now .remoteOrigin
    rw [hcarried.agentId] at hsame
    exact hsame
  · cases hstep

end Networks

/-- A node starts, another one starts to listen, and the first one becomes busy. -/
def busyMeeting : List (NetworkAction Bool) :=
  [.build false "" { agentId := some "agent-a", port := some 8080 },
   .act false (.start (.announce (.ok ()))),.act false (.start (.listen (.ok ()))),
   .act false (.start (.upsert 0)),
   .build true "" { agentId := some "agent-b", port := some 8081 },
   .act true (.start (.announce (.ok ()))),.act true (.start (.listen (.ok ()))),
   .act true (.start (.upsert 1)),.act false (.call (.begin (.status .busy))),
   .act false (.call (.mutate 0)),.act false (.call (.refresh 0)),
   .act false (.call (.announce 0 (.ok ()))),.act false (.call (.upsert 0 2))]

/-- The network before the first node is heard of. -/
def busyNetwork : Network Bool :=
  (exec (Network.step Mac.recorded plainTransport) (Network.empty Bool) busyMeeting).get
    (by decide +kernel)

/-- The node that listens. -/
def listener : Mesh := (busyNetwork.nodes true).get (by decide +kernel)

end MeshPresence.PeerViews
