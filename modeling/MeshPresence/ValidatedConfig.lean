import MeshPresence.WireRoundTrip

/-!
# What validation gives the local announcement

An accepted configuration has normal text fields, ports and a capacity that are
not zero, a TTL above the heartbeat interval, and metadata keys that are neither
blank nor reserved. Its local announcement therefore always exists. It carries the
configured fields, their mirrors in the metadata, and the sorted set of the nonblank
comma-separated pieces of the configured capabilities.
-/

namespace MeshPresence.ValidatedConfig

open TextOperations FallibleSteps AgentTypes AgentConfig AgentWire
open AnnouncementInvariant WireRoundTrip

/-- The guarantees of an accepted configuration. -/
structure Sound (config : ZeroConfConfig) : Prop where
  /-- Trimmed nonempty agent identifier. -/
  agentId : Normal config.agentId
  /-- Trimmed nonempty role. -/
  role : Normal config.role
  /-- Trimmed nonempty project. -/
  project : Normal config.project
  /-- Trimmed nonempty branch. -/
  branch : Normal config.branch
  /-- Trimmed nonempty service type. -/
  serviceType : Normal config.serviceType
  /-- The advertised port is not zero. -/
  port : config.port ≠ 0
  /-- The daemon port is not zero. -/
  mdnsPort : config.mdnsPort ≠ 0
  /-- The TTL exceeds the heartbeat interval. -/
  timing : config.heartbeatInterval<config.ttl
  /-- The event channel holds at least one event. -/
  eventCapacity : config.eventCapacity ≠ 0
  /-- No metadata key is blank. -/
  keys : NoBlankKey config.metadata
  /-- No metadata key is reserved. -/
  unreserved : ∀ key ∈ config.metadata, isReservedMetadataKey key=false

/-- The checks of the validation. -/
theorem validate_iff {config : ZeroConfConfig} :
    config.validate=.ok () ↔ config.port ≠ 0 ∧ config.mdnsPort ≠ 0 ∧
      config.heartbeatInterval<config.ttl ∧ config.eventCapacity ≠ 0 ∧
      isValidServiceType config.serviceType=true ∧ NoBlankKey config.metadata ∧
      ∀ key ∈ config.metadata, isReservedMetadataKey key=false := by
  constructor
  · intro h
    obtain ⟨hport,h⟩ := reject_ok h
    obtain ⟨hmdns,h⟩ := reject_ok h
    obtain ⟨htiming,h⟩ := reject_ok h
    obtain ⟨hcapacity,h⟩ := reject_ok h
    obtain ⟨htype,h⟩ := reject_ok h
    obtain ⟨hblank,h⟩ := reject_ok h
    have htype : isValidServiceType config.serviceType=true := by simpa using htype
    have hkeys : NoBlankKey config.metadata := not_not.mp fun hb => hblank (anyBlankKey_iff.mpr hb)
    refine ⟨hport,hmdns,not_le.mp htiming,hcapacity,htype,hkeys,fun key hkey => ?_⟩
    cases hfind : config.metadata.keys.find? isReservedMetadataKey with
    | none =>
      have hnone := List.find?_eq_none.mp hfind key (Std.ExtTreeMap.mem_keys.mpr hkey)
      exact Bool.eq_false_iff.mpr hnone
    | some found =>
      rw [hfind] at h
      cases h
  · rintro ⟨hport,hmdns,htiming,hcapacity,htype,hkeys,hreserved⟩
    have hblank : ¬(config.metadata.keys.any fun key => trim key="")=true := fun h =>
      anyBlankKey_iff.mp h hkeys
    have hfind : config.metadata.keys.find? isReservedMetadataKey=none := by
      rw [List.find?_eq_none]
      intro key hkey
      rw [hreserved key (Std.ExtTreeMap.mem_keys.mp hkey)]
      exact Bool.false_ne_true
    rw [ZeroConfConfig.validate,if_neg hport]
    simp only [if_neg hmdns,if_neg (not_le.mpr htiming),if_neg hcapacity,htype,Bool.not_true,
      Bool.false_eq_true,if_false,if_neg hblank,hfind]
    rfl

/-- A configuration with normal text fields that passes the checks is sound. -/
theorem validate_sound {config : ZeroConfConfig} (h : config.validate=.ok ())
    (hid : Normal config.agentId) (hrole : Normal config.role) (hproject : Normal config.project)
    (hbranch : Normal config.branch) (htype : Normal config.serviceType) : Sound config := by
  obtain ⟨hport,hmdns,htiming,hcapacity,-,hkeys,hreserved⟩ := validate_iff.mp h
  exact ⟨hid,hrole,hproject,hbranch,htype,hport,hmdns,htiming,hcapacity,hkeys,hreserved⟩

/-- The constructor accepts nonblank fields that pass the checks, and trims them. -/
theorem new_config {agentId role project branch : String} {port mdnsPort : UInt16}
    {serviceType : String} {initialStatus : AgentStatus} {heartbeatInterval ttl : Duration}
    {eventCapacity : UInt64} {capabilities : List String} {metadata : AgentMetadata}
    {config : ZeroConfConfig}
    (h : ZeroConfConfig.new agentId role project branch port mdnsPort serviceType initialStatus
      heartbeatInterval ttl eventCapacity capabilities metadata=.ok config) :
    (Normal (trim agentId) ∧ Normal (trim role) ∧ Normal (trim project) ∧ Normal (trim branch) ∧
      Normal (trim serviceType)) ∧ config.validate=.ok () ∧
    config={ agentId := trim agentId, role := trim role, project := trim project
             branch := trim branch, port, mdnsPort, serviceType := trim serviceType, initialStatus
             heartbeatInterval, ttl, eventCapacity, capabilities, metadata, advertiseLocal := true
             enabledInterfaces := [], disabledInterfaces := [], sharedSecretAuth := none } := by
  obtain ⟨agentId',hid,h⟩ := bind_ok h
  obtain ⟨role',hrole,h⟩ := bind_ok h
  obtain ⟨project',hproject,h⟩ := bind_ok h
  obtain ⟨branch',hbranch,h⟩ := bind_ok h
  obtain ⟨serviceType',htype,h⟩ := bind_ok h
  obtain ⟨_,hvalidate,h⟩ := bind_ok h
  cases h
  obtain ⟨rfl,hid⟩ := normalizeRequired_ok hid
  obtain ⟨rfl,hrole⟩ := normalizeRequired_ok hrole
  obtain ⟨rfl,hproject⟩ := normalizeRequired_ok hproject
  obtain ⟨rfl,hbranch⟩ := normalizeRequired_ok hbranch
  obtain ⟨rfl,htype⟩ := normalizeRequired_ok htype
  exact ⟨⟨hid,hrole,hproject,hbranch,htype⟩,hvalidate,rfl⟩

/-- The constructor establishes the guarantees. -/
theorem new_sound {agentId role project branch : String} {port mdnsPort : UInt16}
    {serviceType : String} {initialStatus : AgentStatus} {heartbeatInterval ttl : Duration}
    {eventCapacity : UInt64} {capabilities : List String} {metadata : AgentMetadata}
    {config : ZeroConfConfig}
    (h : ZeroConfConfig.new agentId role project branch port mdnsPort serviceType initialStatus
      heartbeatInterval ttl eventCapacity capabilities metadata=.ok config) : Sound config := by
  obtain ⟨⟨hid,hrole,hproject,hbranch,htype⟩,hvalidate,rfl⟩ := new_config h
  exact validate_sound hvalidate hid hrole hproject hbranch htype

/-- The policies that are set later keep the guarantees. -/
theorem sound_of_validated {config : ZeroConfConfig} (h : Validated config) : Sound config := by
  induction h with
  | new h => exact new_sound h
  | advertiseLocal _ _ ih => exact { ih with }
  | enabledInterfaces _ _ ih => exact { ih with }
  | disabledInterfaces _ _ ih => exact { ih with }
  | sharedSecretAuth _ _ ih => exact { ih with }

/-- The nonblank pieces of the configured capabilities, in their order. -/
def configuredNames (config : ZeroConfConfig) : List String :=
  ((config.capabilities.flatMap (split ',')).map trim).filter fun s => s ≠ ""

/-- Every nonblank piece is a capability name. -/
theorem configuredNames_name {config : ZeroConfConfig} {name : String}
    (h : name ∈ configuredNames config) : CapabilityName name := by
  obtain ⟨hmem,hne⟩ := List.mem_filter.mp h
  obtain ⟨piece,hpiece,rfl⟩ := List.mem_map.mp hmem
  obtain ⟨raw,-,hraw⟩ := List.mem_flatMap.mp hpiece
  have hcomma := separator_notMem_of_mem_split hraw
  exact ⟨normal_trim (of_decide_eq_true hne),fun hc => hcomma (mem_of_mem_trim hc)⟩

/-- Canonicalizing capability names sorts them and drops duplicates. -/
theorem canonicalizeCapabilities_names {names : List String}
    (h : ∀ name ∈ names, CapabilityName name) :
    canonicalizeCapabilities names=.ok (sortDedup names) := by
  have hm : names.mapM normalizeCapability=.ok names :=
    mapM_of_forall₂ (List.forall₂_same.mpr fun name hn => normalizeCapability_name (h name hn))
  rw [canonicalizeCapabilities,hm,ok_bind]
  rfl

/-- The constructor reads the configured capabilities back from their mirror. -/
theorem capabilitiesFromMetadata_sync (config : ZeroConfConfig) (metadata : AgentMetadata) :
    capabilitiesFromMetadata (syncCapabilitiesMetadata metadata config.capabilities)=
      .ok (sortDedup (configuredNames config)) := by
  rw [capabilitiesFromMetadata,getElem?_sync,if_pos rfl]
  by_cases hne : config.capabilities=[]
  · have hnames : configuredNames config=[] := by
      simp only [configuredNames,hne,List.flatMap_nil,List.map_nil,List.filter_nil]
    rw [if_pos hne,hnames]
    rfl
  · rw [if_neg hne]
    have hsplit := split_join_flatMap ',' hne
    have hname : ∀ name ∈ configuredNames config, CapabilityName name := fun _ hn =>
      configuredNames_name hn
    have hnames := canonicalizeCapabilities_names hname
    dsimp only
    rw [configuredNames,←hsplit] at hnames
    rw [configuredNames,←hsplit]
    exact hnames

/-- Mirroring the capabilities twice keeps the second list. -/
theorem sync_sync (metadata : AgentMetadata) (first second : List String) :
    syncCapabilitiesMetadata (syncCapabilitiesMetadata metadata first) second=
      syncCapabilitiesMetadata metadata second := by
  apply Std.ExtTreeMap.ext_getElem?
  intro key
  rw [getElem?_sync,getElem?_sync,getElem?_sync]
  split <;> rfl

/-- The announcement of a configuration: its fields, their mirrors, and the sorted
set of its capability names. -/
structure Describes (config : ZeroConfConfig) (a : AgentAnnouncement) : Prop where
  /-- Text fields, status and port are those of the configuration. -/
  fields : a.instanceName=config.instanceName ∧ a.agentId=config.agentId ∧ a.role=config.role ∧
    a.project=config.project ∧ a.branch=config.branch ∧ a.status=config.initialStatus ∧
    a.port=config.port
  /-- The capabilities are the configured names. -/
  capabilities : a.capabilities=sortDedup (configuredNames config)
  /-- The metadata mirrors the fields. -/
  mirrors : MirrorsFields a a.metadata
  /-- Keys that mirror no field are configured. -/
  configured : ∀ key, key ∉ canonicalKeys → a.metadata[key]?=config.metadata[key]?
  /-- The announcement is well formed. -/
  wellFormed : WellFormed a

/-- The configured fields before the capabilities are read back. -/
def rawAnnouncement (config : ZeroConfConfig) : AgentAnnouncement where
  instanceName := config.instanceName
  agentId := config.agentId
  role := config.role
  project := config.project
  branch := config.branch
  status := config.initialStatus
  capabilities := config.capabilities
  port := config.port
  addresses := []
  metadata := config.metadata

/-- The instance name of a sound configuration is normal. -/
theorem Sound.instanceName {config : ZeroConfConfig} (h : Sound config) :
    Normal config.instanceName := by
  refine ⟨h.agentId.1.append h.serviceType.1 h.agentId.2 h.serviceType.2,fun he => ?_⟩
  have hlist := congrArg String.toList he
  simp only [ZeroConfConfig.instanceName,String.toList_append,String.toList_empty,
    List.append_eq_nil_iff] at hlist
  exact h.agentId.2 (String.toList_inj.mp hlist.1.1)

/-- A sound configuration has an announcement, which it describes. -/
theorem localAnnouncement_describes {config : ZeroConfConfig} (h : Sound config) :
    ∃ a, config.localAnnouncement=.ok a ∧ Describes config a := by
  have hkeys : NoBlankKey (canonicalMetadata (rawAnnouncement config)) :=
    canonicalMetadata_noBlankKey (a:=rawAnnouncement config) h.keys
  have hcap : capabilitiesFromMetadata (canonicalMetadata (rawAnnouncement config))=
      .ok (sortDedup (configuredNames config)) := capabilitiesFromMetadata_sync config _
  have hnew : config.localAnnouncement=.ok _ := new_of_normal h.instanceName h.agentId h.role
    h.project h.branch h.port hkeys hcap
  have hsync : syncCapabilitiesMetadata (canonicalMetadata (rawAnnouncement config))
      (sortDedup (configuredNames config))=canonicalMetadata { rawAnnouncement config with
        capabilities := sortDedup (configuredNames config) } := sync_sync _ _ _
  have hmirrors := canonicalMetadata_mirrors { rawAnnouncement config with
    capabilities := sortDedup (configuredNames config) }
  rw [←hsync] at hmirrors
  refine ⟨_,hnew,⟨rfl,rfl,rfl,rfl,rfl,rfl,rfl⟩,rfl,?_,hmirrors.other,(new_ok hnew).1⟩
  exact ⟨hmirrors.agentId,hmirrors.role,hmirrors.project,hmirrors.branch,hmirrors.status,
    hmirrors.capabilities,fun _ _ => rfl⟩

end MeshPresence.ValidatedConfig
