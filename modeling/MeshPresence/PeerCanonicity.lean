import MeshPresence.PeerGrammar
import MeshPresence.RegistryQueries

/-!
# When a decoded peer is canonical

The decoder trims and parses the typed fields but keeps the texts that were
sent beside them in the metadata; only the capability list is written back in
its canonical form. A decoded peer therefore mirrors its fields, is a fixed
point of encoding and decoding, and is found alike by the typed queries and by
the metadata queries, exactly when the texts were sent in canonical form.
-/

namespace MeshPresence.PeerCanonicity

open TextOperations FiniteMaps FallibleSteps AgentTypes AgentWire AnnouncementInvariant
open WireRoundTrip AgentRegistry RegistryQueries PeerGrammar

/-- Keys whose texts are trimmed into typed fields. -/
def textKeys : List String :=
  [agentIdMetadataKey, agentRoleMetadataKey, agentProjectMetadataKey, agentBranchMetadataKey]

/-- The texts of the typed fields were sent without surrounding white space, and
the status as one of the canonical strings. -/
def SentCanonically (properties : TxtProperties) : Prop :=
  ∀ property ∈ properties, ∀ text ∈ textOf property,
    (property.key ∈ textKeys → Trimmed text) ∧
    (property.key=agentStatusMetadataKey → text ∈ ["idle","busy","error"])

instance (properties : TxtProperties) : Decidable (SentCanonically properties) :=
  inferInstanceAs (Decidable (∀ property ∈ properties, ∀ text ∈ textOf property, _))

/-- A typed query and the metadata query on its canonical key agree on a record. -/
structure QueriesAgree (r : Registry) (order order' : AgentOrder) (agent : AgentInfo) : Prop where
  /-- Queries by project. -/
  project : ∀ value, agent ∈ getAllByProject r order value ↔
    agent ∈ getAllByMetadata r order' agentProjectMetadataKey value
  /-- Queries by branch. -/
  branch : ∀ value, agent ∈ getAllByBranch r order value ↔
    agent ∈ getAllByMetadata r order' agentBranchMetadataKey value
  /-- Queries by role. -/
  role : ∀ value, agent ∈ getAllByRole r order value ↔
    agent ∈ getAllByMetadata r order' agentRoleMetadataKey value
  /-- Queries by status. -/
  status : ∀ value : AgentStatus, agent ∈ getAllByStatus r order value ↔
    agent ∈ getAllByMetadata r order' agentStatusMetadataKey value.asStr

/-- An announcement whose metadata shows its typed fields. -/
structure Canonical (a : AgentAnnouncement) : Prop where
  /-- The canonical keys hold the strings of the typed fields. -/
  mirrors : MirrorsFields a a.metadata
  /-- Decoding the encoded announcement gives it back. -/
  decodes : fromTxtProperties a.instanceName a.port a.addresses (toTxtProperties a)=.ok a
  /-- Typed queries and metadata queries agree on every record of it. -/
  queries : ∀ (r : Registry) (order order' : AgentOrder) (agent : AgentInfo),
    Stored r agent → agent.payload=a → QueriesAgree r order order' agent

/-- The canonical strings of the statuses are in normal form. -/
theorem normalized_asStr {text : String} (h : text ∈ ["idle","busy","error"]) :
    toAsciiLowercase (trim text)=text := by
  simp only [List.mem_cons,List.not_mem_nil,or_false] at h
  rcases h with rfl|rfl|rfl <;> decide

/-- The canonical string of a status is one of the three. -/
theorem asStr_mem (status : AgentStatus) : status.asStr ∈ ["idle","busy","error"] := by
  cases status <;> decide

/-- A field that a stored record mirrors under a key is queried alike through the key. -/
theorem queried_alike {r : Registry} {order order' : AgentOrder} {agent : AgentInfo}
    {key field value : String} (hmirror : agent.metadata[key]?=some field)
    {predicate : AgentInfo → Bool} (hpredicate : predicate agent=true ↔ field=value) :
    agent ∈ r.query order predicate ↔ agent ∈ getAllByMetadata r order' key value := by
  rw [getAllByMetadata,mem_query,mem_query,hpredicate]
  simp only [hmirror,Option.any_some,decide_eq_true_eq]

/-- Records that mirror their fields are queried alike. -/
theorem MirrorsFields.queriesAgree {agent : AgentInfo}
    (h : MirrorsFields agent.payload agent.payload.metadata) (r : Registry)
    (order order' : AgentOrder) : QueriesAgree r order order' agent where
  project := fun value => queried_alike h.project (by rw [decide_eq_true_eq]; rfl)
  branch := fun value => queried_alike h.branch (by rw [decide_eq_true_eq]; rfl)
  role := fun value => queried_alike h.role (by rw [decide_eq_true_eq]; rfl)
  status := fun value => queried_alike h.status (by rw [decide_eq_true_eq,AgentStatus.asStr_inj]; rfl)

/-- A well-formed announcement that mirrors its fields is canonical. -/
theorem MirrorsFields.canonical {a : AgentAnnouncement} (h : MirrorsFields a a.metadata)
    (ha : WellFormed a) : Canonical a where
  mirrors := h
  decodes := by
    have hmetadata : canonicalMetadata a=a.metadata := (canonicalMetadata_mirrors a).unique h
    rw [fromTxtProperties_toTxtProperties ha a.addresses,hmetadata]
  queries := by
    rintro r order order' agent - rfl
    exact MirrorsFields.queriesAgree h r order order'

/-- The decoder builds well-formed announcements. -/
theorem wellFormed_of_decoded {instanceName : String} {port : UInt16} {addresses : List IpAddr}
    {properties : TxtProperties} {a : AgentAnnouncement}
    (h : fromTxtProperties instanceName port addresses properties=.ok a) : WellFormed a := by
  obtain ⟨_,_,_,_,_,_,_,-,-,-,-,-,-,-,hnew⟩ := fromTxtProperties_new h
  exact (new_ok hnew).1

/-- Every key but the one of the capabilities keeps the text that was sent. -/
theorem Decoded.getElem? {instanceName : String} {port : UInt16} {addresses : List IpAddr}
    {metadata : AgentMetadata} {a : AgentAnnouncement}
    (h : Decoded instanceName port addresses metadata a) {key : String}
    (hkey : agentCapabilitiesMetadataKey ≠ key) : a.metadata[key]?=metadata[key]? := by
  rw [h.metadata,getElem?_sync,if_neg hkey]

/-- Canonically sent texts are the mirrors of the decoded fields. -/
theorem SentCanonically.mirrors {properties : TxtProperties} (hs : SentCanonically properties)
    (hkeys : (properties.map TxtProperty.key).Nodup) {instanceName : String} {port : UInt16}
    {addresses : List IpAddr} {metadata : AgentMetadata} {a : AgentAnnouncement}
    (hmetadata : metadataFromTxtProperties properties=.ok metadata)
    (h : Decoded instanceName port addresses metadata a) : MirrorsFields a a.metadata := by
  have htext : ∀ {key text field : String}, key ∈ textKeys → metadata[key]?=some text →
      field=trim text → a.metadata[key]?=some field := by
    intro key text field hkey hstored hfield
    obtain ⟨property,hproperty,rfl,hsent⟩ := (getElem?_decoded hkeys hmetadata).mp hstored
    have htrimmed : trim text=text := (hs property hproperty text hsent).1 hkey
    have hne : agentCapabilitiesMetadataKey ≠ property.key := by
      rintro he
      exact absurd (he ▸ hkey) (by decide)
    rw [Decoded.getElem? h hne,hstored,hfield,htrimmed]
  obtain ⟨agentId,hid,-,hida⟩ := h.agentId
  obtain ⟨role,hrole,-,hrolea⟩ := h.role
  obtain ⟨project,hproject,-,hprojecta⟩ := h.project
  obtain ⟨branch,hbranch,-,hbrancha⟩ := h.branch
  obtain ⟨raw,hraw,-,hstatus⟩ := h.status
  refine ⟨htext (by decide) hid hida,htext (by decide) hrole hrolea,
    htext (by decide) hproject hprojecta,htext (by decide) hbranch hbrancha,?_,?_,fun _ _ => rfl⟩
  · obtain ⟨property,hproperty,hkey,hsent⟩ := (getElem?_decoded hkeys hmetadata).mp hraw
    have hnormal := normalized_asStr ((hs property hproperty raw hsent).2 hkey)
    rw [Decoded.getElem? h (by decide),hraw,←hstatus,hnormal]
  · rw [h.metadata,getElem?_sync,if_pos rfl,h.capabilities]

/-- Texts that mirror the decoded fields were sent canonically. -/
theorem MirrorsFields.sentCanonically {properties : TxtProperties}
    (hkeys : (properties.map TxtProperty.key).Nodup) {instanceName : String} {port : UInt16}
    {addresses : List IpAddr} {metadata : AgentMetadata} {a : AgentAnnouncement}
    (hmetadata : metadataFromTxtProperties properties=.ok metadata)
    (h : Decoded instanceName port addresses metadata a) (hm : MirrorsFields a a.metadata)
    (ha : WellFormed a) : SentCanonically properties := by
  intro property hproperty text htext
  have hsent : Sent properties property.key text := ⟨property,hproperty,rfl,htext⟩
  have hstored := (getElem?_decoded hkeys hmetadata).mpr hsent
  have hread : ∀ {key field : String}, agentCapabilitiesMetadataKey ≠ key → property.key=key →
      a.metadata[key]?=some field → text=field := by
    intro key field hne hkey hmirror
    rw [Decoded.getElem? h hne,←hkey,hstored] at hmirror
    exact Option.some.inj hmirror
  constructor
  · intro hkey
    simp only [textKeys,List.mem_cons,List.not_mem_nil,or_false] at hkey
    rcases hkey with hkey|hkey|hkey|hkey
    · rw [hread (by decide) hkey hm.agentId]
      exact ha.agentId.1
    · rw [hread (by decide) hkey hm.role]
      exact ha.role.1
    · rw [hread (by decide) hkey hm.project]
      exact ha.project.1
    · rw [hread (by decide) hkey hm.branch]
      exact ha.branch.1
  · intro hkey
    rw [hread (by decide) hkey hm.status]
    exact asStr_mem a.status

/-- A decoded peer is canonical exactly when its typed fields were sent in canonical form. -/
theorem canonical_iff_sentCanonically {instanceName : String} {port : UInt16}
    {addresses : List IpAddr} {properties : TxtProperties} {a : AgentAnnouncement}
    (hkeys : (properties.map TxtProperty.key).Nodup)
    (h : fromTxtProperties instanceName port addresses properties=.ok a) :
    Canonical a ↔ SentCanonically properties := by
  obtain ⟨metadata,hmetadata,hdecoded⟩ := fromTxtProperties_iff.mp h
  have ha : WellFormed a := wellFormed_of_decoded h
  constructor
  · intro hc
    exact MirrorsFields.sentCanonically hkeys hmetadata hdecoded hc.mirrors ha
  · intro hs
    exact MirrorsFields.canonical (hs.mirrors hkeys hmetadata hdecoded) ha

/-- Properties in canonical form, with capabilities that are not. -/
def canonicalProperties : TxtProperties :=
  [("agent_id","peer"),("role","coder"),("current_project","alpha"),("current_branch","main"),
   ("status","busy"),("capabilities"," review,,plan"),("team"," blue ")].map TxtProperty.ofEntry

/-- Untidy capabilities and other metadata do not make a peer divergent. -/
theorem canonical_iff_sentCanonically_untidy :
    ∃ a, fromTxtProperties "peer._agent-mesh._tcp.local." 8080 [] canonicalProperties=.ok a ∧
      Canonical a := by
  have hkeys : (canonicalProperties.map TxtProperty.key).Nodup := by decide +kernel
  have hsome : (fromTxtProperties "peer._agent-mesh._tcp.local." 8080 []
      canonicalProperties).toOption.isSome=true := by
    decide +kernel
  obtain ⟨a,ha⟩ := Option.isSome_iff_exists.mp hsome
  have hok := ok_of_toOption ha
  exact ⟨a,hok,(canonical_iff_sentCanonically hkeys hok).mpr (by decide +kernel)⟩

/-- A peer that sends padded texts and an upper-case status. -/
def divergentProperties : TxtProperties :=
  [("agent_id","peer"),("role"," coder "),("current_project","alpha"),("current_branch","main"),
   ("status","BUSY")].map TxtProperty.ofEntry

/-- The announcement that the decoder builds from them. -/
def divergentPeer : AgentAnnouncement where
  instanceName := "peer._agent-mesh._tcp.local."
  agentId := "peer"
  role := "coder"
  project := "alpha"
  branch := "main"
  status := .busy
  capabilities := []
  port := 8080
  addresses := []
  metadata := Std.ExtTreeMap.ofList [("agent_id","peer"),("role"," coder "),
    ("current_project","alpha"),("current_branch","main"),("status","BUSY")]

/-- The decoder accepts the divergent peer, does not give it back from its own encoding, and a
registry that holds it finds it busy by its status but not by its metadata. -/
theorem divergent_peer_accepted :
    (divergentProperties.map TxtProperty.key).Nodup ∧
    fromTxtProperties "peer._agent-mesh._tcp.local." 8080 [] divergentProperties=
      .ok divergentPeer ∧
    ¬MirrorsFields divergentPeer divergentPeer.metadata ∧
    fromTxtProperties divergentPeer.instanceName divergentPeer.port divergentPeer.addresses
      (toTxtProperties divergentPeer) ≠ .ok divergentPeer ∧
    (let r := (Registry.upsertRemote (Registry.new 120) divergentPeer 0).2
    getAllByStatus r Iteration.ascending .busy=[intoAgentInfo divergentPeer 0] ∧
      getAllByMetadata r Iteration.ascending "status" "busy"=[]) ∧
    ¬Canonical divergentPeer := by
  have hmirror : ¬MirrorsFields divergentPeer divergentPeer.metadata := fun h =>
    absurd h.role (by decide +kernel)
  exact ⟨by decide +kernel,by decide +kernel,hmirror,by decide +kernel,by decide +kernel,
    fun h => hmirror h.mirrors⟩

end MeshPresence.PeerCanonicity
