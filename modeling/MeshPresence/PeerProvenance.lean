import MeshPresence.MeshNetwork
import MeshPresence.PeerCanonicity
import MeshPresence.ShutdownFinality

/-!
# Every listed peer was announced

On a network of nodes that start, run, exchange announcements and vanish in any order, a
record under another identifier than the local one was taken from a service that was
published before. When a node published it and its properties fit the transport, the record
carries the identity, the status and the other typed fields of one announcement of a node with
that identifier: nothing is invented, mixed from several announcements, or attributed to another
agent. Metadata may be lost on the way, but none is added.
-/

namespace MeshPresence.PeerProvenance

open TextOperations GuardedRuns NodeFamilies FirstOccurrences
open AgentTypes AgentConfig AgentWire AgentRegistry AgentListener AnnouncementInvariant
open WireRoundTrip PeerGrammar KeyShadowing RegistryJournal MeshRuntime MeshEffects
open LocalEntry CopyInvariants ServiceTransport MeshNetwork
open ShutdownFinality (targetOf)

/-- What a peer holds of an announcement: all typed fields, except that the capabilities may be
missing, and no metadata that was not sent. -/
structure Carried (a b : AgentAnnouncement) : Prop where
  /-- Agent identifier. -/
  agentId : b.agentId=a.agentId
  /-- Role. -/
  role : b.role=a.role
  /-- Project. -/
  project : b.project=a.project
  /-- Branch. -/
  branch : b.branch=a.branch
  /-- Status. -/
  status : b.status=a.status
  /-- Port. -/
  port : b.port=a.port
  /-- Capabilities, all or none. -/
  capabilities : b.capabilities=a.capabilities ∨ b.capabilities=[]
  /-- Metadata. -/
  metadata : ∀ key value : String, b.metadata[key]?=some value →
    (canonicalMetadata a)[key]?=some value

/-- A text that the decoder trimmed is the normal text that was sent. -/
theorem trim_sent {field text : String} (hn : Normal field) {sent : Option String}
    (hsent : sent=some text) (hfield : sent=some field) : trim text=field := by
  rw [hsent] at hfield
  cases hfield
  exact hn.1

/-- What a peer decodes of a well-formed announcement is carried over from it. -/
theorem received_carried {a b : AgentAnnouncement} (ha : WellFormed a) {name : String}
    {addresses : List IpAddr}
    (h : fromTxtProperties name a.port addresses (transported (toTxtProperties a))=.ok b) :
    Carried a b ∧ b.instanceName=trim name ∧ b.addresses=addresses := by
  have hdecode := metadataFromTxtProperties_transported a
  have hm := canonicalMetadata_mirrors a
  have hsent : ∀ {key value : String},
      (rebuildFirst toAsciiLowercase (canonicalMetadata a))[key]?=some value →
      (canonicalMetadata a)[key]?=some value := fun h =>
    ((getElem?_rebuildFirst toAsciiLowercase).mp h).1
  obtain ⟨-,hread⟩ := fromTxtProperties_reads hdecode h
  obtain ⟨metadata,hmetadata,hd⟩ := fromTxtProperties_iff.mp h
  cases hdecode.symm.trans hmetadata
  obtain ⟨agentId,hid,-,hida⟩ := hd.agentId
  obtain ⟨role,hrole,-,hrolea⟩ := hd.role
  obtain ⟨project,hproject,-,hprojecta⟩ := hd.project
  obtain ⟨branch,hbranch,-,hbrancha⟩ := hd.branch
  obtain ⟨status,hstatus,-,hstatusa⟩ := hd.status
  have hcapabilities : b.capabilities=a.capabilities ∨ b.capabilities=[] := by
    cases hraw : (rebuildFirst toAsciiLowercase (canonicalMetadata a))[
        agentCapabilitiesMetadataKey]? with
    | none =>
      rw [capabilitiesFromMetadata,hraw] at hread
      exact Or.inr (Except.ok.inj hread).symm
    | some raw =>
      have hlisted := capabilitiesFromMetadata_canonicalMetadata ha.capabilities
      rw [capabilitiesFromMetadata,hsent hraw] at hlisted
      rw [capabilitiesFromMetadata,hraw] at hread
      exact Or.inl (Except.ok.inj (hread.symm.trans hlisted))
  refine ⟨⟨hida.trans (trim_sent ha.agentId (hsent hid) hm.agentId),
    hrolea.trans (trim_sent ha.role (hsent hrole) hm.role),
    hprojecta.trans (trim_sent ha.project (hsent hproject) hm.project),
    hbrancha.trans (trim_sent ha.branch (hsent hbranch) hm.branch),?_,hd.endpoint.2.1,
    hcapabilities,?_⟩,hd.instanceName.2,hd.endpoint.2.2⟩
  · rw [trim_sent (AgentStatus.asStr_trimmed a.status) (hsent hstatus) hm.status] at hstatusa
    have hlower : toAsciiLowercase a.status.asStr=a.status.asStr := by
      cases a.status <;> decide
    exact (AgentStatus.asStr_inj.mp (hlower.symm.trans hstatusa)).symm
  · intro key value hvalue
    rw [hd.metadata,←hd.capabilities,getElem?_sync] at hvalue
    split at hvalue
    · next hkey =>
      split at hvalue
      · cases hvalue
      · next hne =>
        rw [←hkey,hm.capabilities,←hcapabilities.resolve_right hne,if_neg hne]
        exact hvalue
    · exact hsent hvalue

section Steps

variable {mac : Mac} {config : ZeroConfConfig} {m m' : Mesh} {action : Action}

/-- A record of a peer was there before the step, or the listener admitted its payload from
the service that the step resolved. -/
theorem step_record (h : LocalInvariant config m) (hs : MeshRuntime.step mac m action=some m')
    {id : String} {agent : AgentInfo} (ha : m'.shared.registry.inner[id]?=some agent)
    (hne : id ≠ config.agentId) :
    m.shared.registry.inner[id]?=some agent ∨ ∃ service now, action=resolution service now ∧
      (Listener.ofConfig config).admits mac service=some agent.payload ∧
      agent=intoAgentInfo agent.payload now ∧ agent.id=id := by
  have hconfig := h.unchanged
  cases step_effect hs with
  | quiet shared | abandon snapshot error source shared | skip discovery shared
    | mutate i call source hcall succeeds shared | clone tick waiting shared
    | announce snapshot source shared | withdraw announcement source shared =>
    rw [shared] at ha
    exact Or.inl ha
  | refresh advertises shared =>
    rw [shared,Shared.copied,(sign_frame mac m.shared m.config.sharedSecretAuth).1] at ha
    exact Or.inl ha
  | upsert snapshot now source shared work =>
    have hlocal := h.copies _ (work.was _ rfl) _ rfl
    have hother : snapshot.announcement.agentId ≠ id := fun he => hne (he.symm.trans hlocal.1)
    have hsame : m'.shared.registry.inner[id]?=m.shared.registry.inner[id]? := by
      rw [shared]
      exact upsertWithOriginAt_other m.shared.registry now .localOrigin hother
    exact Or.inl (hsame ▸ ha)
  | browse event task shared =>
    rw [shared,hconfig] at ha
    rcases handle_cases mac (Listener.ofConfig config) m.shared.registry event with
      he|⟨service,now,a,rfl,hadmits,he⟩|⟨_,name,order,-,-,he⟩ <;> simp only [he] at ha
    · exact Or.inl ha
    · by_cases hid : a.agentId=id
      · have hsame := upsertWithOriginAt_same m.shared.registry a now .remoteOrigin
        rw [hid] at hsame
        cases Option.some.inj (ha.symm.trans hsame)
        exact Or.inr ⟨service,now,task,by rw [payload_intoAgentInfo]; exact hadmits,
          by rw [payload_intoAgentInfo],hid⟩
      · exact Or.inl ((upsertWithOriginAt_other m.shared.registry now .remoteOrigin hid).symm.trans ha)
    · exact Or.inl (removeRemoteByInstanceName_subset m.shared.registry ha)
  | sweep order now task shared =>
    rw [shared] at ha
    exact Or.inl (evictStaleAt_subset m.shared.registry ha)
  | remove announcement source shared =>
    rw [shared] at ha
    exact Or.inl (removeWithOrigin_subset m.shared.registry ha)

/-- The shutdown is about what it was about before the step, or about the local announcement. -/
theorem step_target (hs : MeshRuntime.step mac m action=some m') {a : AgentAnnouncement}
    (ha : targetOf m'.shutdown=some a) : targetOf m.shutdown=some a ∨ a=m.shared.localAgent := by
  by_cases hparty : party action=.shutdown
  · cases action with
    | start action | call action | tick action | task action => cases hparty
    | shutdown action =>
      cases shutdownStep_cases hs with
      | signal hstart hphase | skip hphase discovery | remove announcement hphase
        | join hphase hheartbeat htasks => cases ha
      | clone hphase advertises =>
        cases ha
        exact Or.inr rfl
      | unregister announcement hphase =>
        cases ha
        exact Or.inl (by rw [hphase]; rfl)
  · rw [(step_frame hs).shutdown hparty] at ha
    exact Or.inl ha

end Steps

/-- What holds of a node in every state: it keeps its identity, and everything it may announce
is well formed. -/
structure Honest (m : Mesh) : Prop where
  /-- The configuration is validated. -/
  validated : Validated m.config
  /-- The node keeps its identity. -/
  identity : LocalInvariant m.config m
  /-- Announcements are well formed. -/
  wellFormed : Everywhere WellFormed m
  /-- The shutdown is about the local agent. -/
  departing : ∀ a, targetOf m.shutdown=some a → a.agentId=m.config.agentId

/-- A node of a validated configuration starts honest. -/
theorem Honest.init {mac : Mac} {config : ZeroConfConfig} {m : Mesh} (hvalid : Validated config)
    (h : Mesh.init mac config=.ok m) : Honest m := by
  have hidentity := LocalInvariant.init hvalid h
  have hconfig := hidentity.unchanged
  refine ⟨hconfig ▸ hvalid,hconfig.symm ▸ hidentity,Everywhere.init ?_ (fun a ha => ?_) h,?_⟩
  · exact fun a mutator ha => applyAll_wellFormed mac ha [mutator]
  · exact (new_ok ha).1
  · obtain ⟨a,-,rfl⟩ := init_ok h
    intro b hb
    cases hb

/-- Every step keeps a node honest. -/
theorem Honest.step {mac : Mac} {m m' : Mesh} {action : Action} (h : Honest m)
    (hs : MeshRuntime.step mac m action=some m') : Honest m' := by
  have hconfig := (step_frame hs).config
  refine ⟨hconfig ▸ h.validated,hconfig ▸ h.identity.step hs,h.wellFormed.step ?_ hs,?_⟩
  · exact fun a mutator ha => applyAll_wellFormed mac ha [mutator]
  · intro a ha
    rw [hconfig]
    rcases step_target hs ha with ha|rfl
    · exact h.departing a ha
    · exact h.identity.localAgent.1

/-- What is known of a registration. -/
structure Genuine (r : Registration) : Prop where
  /-- The configuration is validated. -/
  validated : Validated r.config
  /-- Only advertising nodes announce. -/
  advertises : r.config.advertiseLocal=true
  /-- The announcement has the identity of the configuration. -/
  identity : IsLocal r.config r.announcement
  /-- The announcement is well formed. -/
  wellFormed : WellFormed r.announcement

/-- An honest node makes genuine registrations. -/
theorem Honest.registers {m : Mesh} (h : Honest m) {action : Action} {r : Registration}
    (hr : registration m action=some r) : Genuine r := by
  unfold registration at hr
  split at hr
  · cases hr
  · obtain ⟨snapshot,hannounced,rfl⟩ := Option.map_eq_some_iff.mp hr
    have hpending := announced_pending hannounced
    exact ⟨h.validated,Bool.of_not_eq_false (h.identity.advertises hpending rfl),
      h.identity.copies _ hpending _ rfl,h.wellFormed.copies _ hpending _ rfl⟩

/-- A service that may be resolved on a network. -/
def Resolvable {ι : Type} (transport : Transport) (net : Network ι)
    (service : ResolvedService) : Prop :=
  service ∈ net.foreign ∨
    ∃ r ∈ net.registered, ∃ addresses, service=r.service.resolved transport addresses

/-- The payload of every record of a peer was admitted from a resolvable service. -/
def Admits {ι : Type} (mac : Mac) (transport : Transport) (net : Network ι) (m : Mesh) :
    Prop :=
  ∀ (id : String) (agent : AgentInfo), m.shared.registry.inner[id]?=some agent →
    id ≠ m.config.agentId → agent.id=id ∧ ∃ service, Resolvable transport net service ∧
      (Listener.ofConfig m.config).admits mac service=some agent.payload

/-- The invariant of a network. -/
structure Traced {ι : Type} (mac : Mac) (transport : Transport) (net : Network ι) :
    Prop where
  /-- Nodes are honest. -/
  nodes : Live (fun _ m => Honest m) net.nodes
  /-- Registrations are genuine. -/
  registered : ∀ r ∈ net.registered, Genuine r
  /-- Records come from resolvable services. -/
  records : Live (fun _ m => Admits mac transport net m) net.nodes

section Networks

variable {ι : Type} {mac : Mac} {transport : Transport} {net net' : Network ι}

/-- What may be resolved stays resolvable. -/
theorem Resolvable.mono (hr : ∀ r ∈ net.registered, r ∈ net'.registered)
    (hf : ∀ s ∈ net.foreign, s ∈ net'.foreign) {service : ResolvedService}
    (h : Resolvable transport net service) : Resolvable transport net' service :=
  h.imp (hf service) fun ⟨r,hm,addresses,he⟩ => ⟨r,hr r hm,addresses,he⟩

/-- Records stay admitted when more services become resolvable. -/
theorem Admits.mono (hr : ∀ r ∈ net.registered, r ∈ net'.registered)
    (hf : ∀ s ∈ net.foreign, s ∈ net'.foreign) {m : Mesh} (h : Admits mac transport net m) :
    Admits mac transport net' m := fun id agent ha hne =>
  have ⟨hid,service,hs,hadmits⟩ := h id agent ha hne
  ⟨hid,service,hs.mono hr hf,hadmits⟩

/-- A new node has no records. -/
theorem Admits.init {config : ZeroConfConfig} {m : Mesh} (h : Mesh.init mac config=.ok m) :
    Admits mac transport net m := by
  obtain ⟨a,-,rfl⟩ := init_ok h
  intro id agent hid
  simp only [Shared.copied,(sign_frame mac _ _).1,unsigned,Registry.new,
    Std.ExtTreeMap.getElem?_empty,reduceCtorEq] at hid

/-- A step of a node keeps its records admitted, when a service that it resolves may be
resolved. -/
theorem Admits.step {m m' : Mesh} {own : Action} (h : Admits mac transport net m)
    (hhonest : Honest m) (hs : MeshRuntime.step mac m own=some m')
    (hown : ∀ service now, own=resolution service now → Resolvable transport net service) :
    Admits mac transport net m' := by
  intro id agent ha hne
  have hconfig := (step_frame hs).config
  rw [hconfig] at hne ⊢
  rcases step_record hhonest.identity hs ha hne with hold|⟨service,now,he,hadmits,-,hid⟩
  · exact h id agent hold hne
  · exact ⟨hid,service,hown service now he,hadmits⟩

/-- What is decoded of a registered service that arrives is carried over from its announcement. -/
theorem Genuine.carried {transport : Transport} {r : Registration} (h : Genuine r)
    (harrives : Arrives transport r.service) {addresses : List IpAddr} {b : AgentAnnouncement}
    (hb : fromResolvedService (r.service.resolved transport addresses)=.ok b) :
    r.config.agentId=b.agentId ∧ Carried r.announcement b := by
  obtain ⟨hcarried,-,-⟩ :=
    received_carried h.wellFormed ((fromResolvedService_arrives harrives addresses).symm.trans hb)
  exact ⟨h.identity.1.symm.trans hcarried.agentId.symm,hcarried⟩

/-- What is decoded of a resolved service has its full name. -/
theorem instanceName_of_decoded {service : ResolvedService} {b : AgentAnnouncement}
    (hb : fromResolvedService service=.ok b) : b.instanceName=trim service.fullname := by
  obtain ⟨metadata,-,hd⟩ := fromTxtProperties_iff.mp hb
  exact hd.instanceName.2

/-- A record of a peer was decoded from a foreign service, or from one that an advertising node
registered. -/
theorem Traced.announced (h : Traced mac transport net) {i : ι} {m : Mesh} (hnode : net.nodes i=some m)
    {id : String} {agent : AgentInfo} (hrecord : m.shared.registry.inner[id]?=some agent)
    (hne : id ≠ m.config.agentId) : agent.id=id ∧
    ((∃ service ∈ net.foreign, fromResolvedService service=.ok agent.payload) ∨
      ∃ r ∈ net.registered, Genuine r ∧ agent.instanceName=trim (transport.fullname r.service) ∧
        (∃ addresses,
          fromResolvedService (r.service.resolved transport addresses)=.ok agent.payload) ∧
        (Arrives transport r.service →
          r.config.agentId=id ∧ Carried r.announcement agent.payload)) := by
  obtain ⟨hid,service,hresolvable,hadmits⟩ := h.records i m hnode id agent hrecord hne
  obtain ⟨hdecoded,-,-⟩ := admits_some hadmits
  refine ⟨hid,hresolvable.imp (fun hf => ⟨service,hf,hdecoded⟩) ?_⟩
  rintro ⟨r,hr,addresses,rfl⟩
  have hgenuine := h.registered r hr
  refine ⟨r,hr,hgenuine,instanceName_of_decoded hdecoded,⟨addresses,hdecoded⟩,fun harrives => ?_⟩
  obtain ⟨hagent,hcarried⟩ := hgenuine.carried harrives hdecoded
  exact ⟨hagent.trans hid,hcarried⟩

variable [DecidableEq ι] {action : NetworkAction ι}

/-- A node that is in an invariant moves on. -/
theorem Traced.moved (h : Traced mac transport net) {i : ι} {m m' : Mesh} {own : Action}
    (hnode : net.nodes i=some m) (hs : MeshRuntime.step mac m own=some m')
    (hnodes : net'.nodes=place net.nodes i (some m'))
    (hregistered : ∀ r ∈ net'.registered, r ∈ net.registered ∨ registration m own=some r)
    (hr : ∀ r ∈ net.registered, r ∈ net'.registered) (hf : ∀ s ∈ net.foreign, s ∈ net'.foreign)
    (hown : ∀ service now, own=resolution service now → Resolvable transport net' service) :
    Traced mac transport net' where
  nodes := by
    rw [hnodes]
    exact h.nodes.place ((h.nodes i m hnode).step hs)
  registered := fun r hm => (hregistered r hm).elim (h.registered r)
    fun hr => (h.nodes i m hnode).registers hr
  records := by
    rw [hnodes]
    intro j t ht
    rcases place_cases ht with ⟨-,hst⟩|⟨-,ht⟩
    · cases hst
      exact ((h.records i m hnode).mono hr hf).step (h.nodes i m hnode) hs hown
    · exact (h.records j t ht).mono hr hf

/-- Every step of a network keeps the invariant. -/
theorem Traced.step (h : Traced mac transport net) (hs : net.step mac transport action=some net') :
    Traced mac transport net' := by
  cases step_cases hs with
  | build i generatedId builder config m free hconfig hinit =>
    have hvalid := (MeshBuilder.buildConfig_built hconfig).validated
    exact ⟨h.nodes.place (Honest.init hvalid hinit),h.registered,h.records.place (Admits.init hinit)⟩
  | act i own m m' hnode hown hm =>
    refine h.moved hnode hm rfl (fun r hr => ?_) (fun r => List.mem_append_left _) (fun _ => id)
      fun service now he => ?_
    · exact (List.mem_append.mp hr).imp id Option.mem_toList.mp
    · rw [he] at hown
      cases hown
  | deliver i n addresses now r m m' hnode hregistered hm =>
    refine h.moved hnode hm rfl (fun r => Or.inl) (fun _ => id) (fun _ => id) fun service t he => ?_
    cases he
    exact Or.inr ⟨r,List.mem_of_getElem? hregistered,addresses,rfl⟩
  | inject i service now m m' hnode hm =>
    refine h.moved hnode hm rfl (fun r => Or.inl) (fun _ => id) (fun s => List.mem_append_left _)
      fun other t he => ?_
    cases he
    exact Or.inl (List.mem_append_right _ (List.mem_singleton_self service))
  | vanish i => exact ⟨h.nodes.clear i,h.registered,h.records.clear i⟩

/-- Every reachable network is in the invariant. -/
theorem Traced.run {actions : List (NetworkAction ι)}
    (hrun : exec (Network.step mac transport) (Network.empty ι) actions=some net) :
    Traced mac transport net := by
  refine invariant_of_exec (Traced mac transport) (fun _ _ _ h hs => h.step hs) hrun
    ⟨Live.none _,fun r hr => ?_,Live.none _⟩
  exact absurd hr List.not_mem_nil

/-- In every reachable state of a network with a lawful transport, a record under another
identifier than the local one is stored under its own identifier, and was decoded from a service
that another program published or that an advertising node of a validated configuration
registered; then the name of the record is the one of that service. When the properties of the
service fit, the node has that identifier and the record carries the one announcement that was
registered. -/
theorem peers_are_announced (mac : Mac) (transport : Transport) (hlawful : transport.Lawful)
    (actions : List (NetworkAction ι)) (net : Network ι)
    (hrun : exec (Network.step mac transport) (Network.empty ι) actions=some net) (i : ι) (m : Mesh)
    (hnode : net.nodes i=some m) (id : String) (agent : AgentInfo)
    (hrecord : m.shared.registry.inner[id]?=some agent) (hne : id ≠ m.config.agentId) :
    agent.id=id ∧
    ((∃ service ∈ net.foreign, fromResolvedService service=.ok agent.payload) ∨
      ∃ r ∈ net.registered, Genuine r ∧ agent.instanceName=trim (transport.fullname r.service) ∧
        (∃ addresses,
          fromResolvedService (r.service.resolved transport addresses)=.ok agent.payload) ∧
        (Fits r.service.properties →
          r.config.agentId=id ∧ Carried r.announcement agent.payload)) := by
  obtain ⟨hid,hsource⟩ := (Traced.run hrun).announced hnode hrecord hne
  refine ⟨hid,hsource.imp_right ?_⟩
  rintro ⟨r,hr,hgenuine,hname,hdecoded,hcarried⟩
  exact ⟨r,hr,hgenuine,hname,hdecoded,fun hfits => hcarried (hlawful.arrives hfits)⟩

end Networks

/-- One node announces itself to another, with properties that fit. -/
theorem peers_are_announced_meeting :
    (∀ r ∈ meeting.registered, Fits r.service.properties) ∧ greeted.id="agent-a" ∧
    ((∃ service ∈ meeting.foreign, fromResolvedService service=.ok greeted.payload) ∨
      ∃ r ∈ meeting.registered, Genuine r ∧
        greeted.instanceName=trim (plainTransport.fullname r.service) ∧
        (∃ addresses,
          fromResolvedService (r.service.resolved plainTransport addresses)=.ok greeted.payload) ∧
        (Fits r.service.properties →
          r.config.agentId="agent-a" ∧ Carried r.announcement greeted.payload)) :=
  ⟨by decide +kernel,peers_are_announced Mac.recorded plainTransport plainTransport_lawful
    firstMeeting meeting (Option.some_get _).symm true greeter (Option.some_get _).symm "agent-a"
    greeted (Option.some_get _).symm (by decide +kernel)⟩

end MeshPresence.PeerProvenance
