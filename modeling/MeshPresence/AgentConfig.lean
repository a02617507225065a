import MeshPresence.AgentTypes

/-!
# Shared secrets and the validated node configuration

Shared-secret settings keep the signing secret among the accepted secrets by
construction. A configuration is accepted after trimming its required text
fields and checking ports, timing, capacity, service type and metadata keys;
policies such as discovery-only operation are set on an accepted configuration.
The local announcement is derived from a configuration by writing the mirrors
of the typed fields into its metadata. The builder and the command line are
separate layers.
-/

namespace MeshPresence.AgentConfig

open TextOperations AgentTypes

/-- What a configured shared secret is used for. -/
inductive SharedSecretMode where
  /-- Sign local announcements and accept every peer. -/
  | signOnly
  /-- Sign local announcements and require valid signatures of peers. -/
  | signAndVerify
  deriving DecidableEq

/-- Trim a shared secret and reject it when nothing is left. -/
def normalizeSharedSecret (secret : String) : Except ZeroConfError String :=
  if trim secret="" then .error .emptySharedSecret else .ok (trim secret)

/-- Shared-secret settings; the signing secret is always accepted. -/
structure SharedSecretAuth where
  /-- Secret that signs local announcements. -/
  signingSecret : String
  /-- Secrets accepted from peers. -/
  verificationSecrets : List String
  /-- Whether peers are verified. -/
  mode : SharedSecretMode
  /-- Both constructors accept their own signing secret. -/
  signing_mem : signingSecret ∈ verificationSecrets
  deriving DecidableEq

/-- Settings with a single secret. -/
def SharedSecretAuth.new (secret : String) (mode : SharedSecretMode) :
    Except ZeroConfError SharedSecretAuth := do
  let signingSecret ← normalizeSharedSecret secret
  return { signingSecret, verificationSecrets := [signingSecret], mode,
           signing_mem := List.mem_singleton_self signingSecret }

/-- Append the signing secret unless it is already accepted. -/
def withSigningSecret (normalized : List String) (signingSecret : String) : List String :=
  if normalized.any fun secret => secret=signingSecret then normalized
  else normalized ++ [signingSecret]

/-- Exactly the given secrets and the signing secret are accepted. -/
theorem mem_withSigningSecret {normalized : List String} {signingSecret secret : String} :
    secret ∈ withSigningSecret normalized signingSecret ↔
      secret ∈ normalized ∨ secret=signingSecret := by
  unfold withSigningSecret
  split
  · next h =>
    obtain ⟨s,hs,he⟩ := List.any_eq_true.mp h
    have hmem : signingSecret ∈ normalized := of_decide_eq_true he ▸ hs
    exact ⟨Or.inl,fun h => h.elim id fun he => he ▸ hmem⟩
  · rw [List.mem_append,List.mem_singleton]

/-- Settings that accept further secrets during a key transition. -/
def SharedSecretAuth.withRotation (signingSecret : String) (verificationSecrets : List String)
    (mode : SharedSecretMode) : Except ZeroConfError SharedSecretAuth := do
  let signingSecret ← normalizeSharedSecret signingSecret
  let normalized ← verificationSecrets.mapM normalizeSharedSecret
  return { signingSecret
           verificationSecrets := sortDedup (withSigningSecret normalized signingSecret)
           mode
           signing_mem := mem_sortDedup.mpr (mem_withSigningSecret.mpr (Or.inr rfl)) }

/-- Whether peers must carry a valid signature. -/
def SharedSecretAuth.verifiesIncoming (auth : SharedSecretAuth) : Bool :=
  auth.mode=.signAndVerify

/-- Selector of network interfaces for the mDNS daemon. -/
inductive NetworkInterface where
  /-- All interfaces. -/
  | all
  /-- All version 4 interfaces. -/
  | ipv4
  /-- All version 6 interfaces. -/
  | ipv6
  /-- One interface by system name. -/
  | name (name : String)
  /-- One interface by an assigned address. -/
  | addr (addr : IpAddr)
  /-- The version 4 loopback interface. -/
  | loopbackV4
  /-- The version 6 loopback interface. -/
  | loopbackV6
  /-- A version 4 interface by index. -/
  | indexV4 (index : UInt32)
  /-- A version 6 interface by index. -/
  | indexV6 (index : UInt32)
  deriving DecidableEq

/-- Runtime configuration of a mesh node. -/
structure ZeroConfConfig where
  /-- Identifier of the local agent. -/
  agentId : String
  /-- Declared role. -/
  role : String
  /-- Declared project. -/
  project : String
  /-- Declared branch or workstream. -/
  branch : String
  /-- Advertised port. -/
  port : UInt16
  /-- UDP port of the mDNS daemon. -/
  mdnsPort : UInt16
  /-- DNS-SD service type. -/
  serviceType : String
  /-- Status at start-up. -/
  initialStatus : AgentStatus
  /-- Interval between local refreshes and between sweeps. -/
  heartbeatInterval : Duration
  /-- Age beyond which records are evicted. -/
  ttl : Duration
  /-- Capacity of the event channel, a `usize` of a 64-bit target. -/
  eventCapacity : UInt64
  /-- Typed capabilities of the local agent. -/
  capabilities : List String
  /-- Further metadata of the local agent. -/
  metadata : AgentMetadata
  /-- Whether the local agent is announced. -/
  advertiseLocal : Bool
  /-- Interfaces the daemon includes. -/
  enabledInterfaces : List NetworkInterface
  /-- Interfaces the daemon excludes. -/
  disabledInterfaces : List NetworkInterface
  /-- Shared-secret settings, when enabled. -/
  sharedSecretAuth : Option SharedSecretAuth
  deriving DecidableEq

/-- Test of the service type by its first character, its ending and a protocol label. -/
def isValidServiceType (serviceType : String) : Bool :=
  if !startsWith serviceType "_" || !endsWith serviceType ".local." then false
  else containsText serviceType "._tcp." || containsText serviceType "._udp."

/-- Semantic checks of a configuration, in their order. -/
def ZeroConfConfig.validate (config : ZeroConfConfig) : Except ZeroConfError Unit := do
  if config.port=0 then
    throw .invalidPort
  if config.mdnsPort=0 then
    throw .invalidMdnsPort
  if config.ttl≤config.heartbeatInterval then
    throw (.invalidTiming config.heartbeatInterval config.ttl)
  if config.eventCapacity=0 then
    throw .invalidEventCapacity
  if !isValidServiceType config.serviceType then
    throw (.invalidServiceType config.serviceType)
  if config.metadata.keys.any fun key => trim key="" then
    throw .emptyMetadataKey
  match config.metadata.keys.find? isReservedMetadataKey with
  | some key => throw (.reservedMetadataKey key)
  | none => return ()

/-- Validated construction of a configuration. -/
def ZeroConfConfig.new (agentId role project branch : String) (port mdnsPort : UInt16)
    (serviceType : String) (initialStatus : AgentStatus) (heartbeatInterval ttl : Duration)
    (eventCapacity : UInt64) (capabilities : List String) (metadata : AgentMetadata) :
    Except ZeroConfError ZeroConfConfig := do
  let agentId ← normalizeRequired agentId "agent_id"
  let role ← normalizeRequired role "role"
  let project ← normalizeRequired project "project"
  let branch ← normalizeRequired branch "branch"
  let serviceType ← normalizeRequired serviceType "service_type"
  let config : ZeroConfConfig :=
    { agentId, role, project, branch, port, mdnsPort, serviceType, initialStatus,
      heartbeatInterval, ttl, eventCapacity, capabilities, metadata, advertiseLocal := true,
      enabledInterfaces := [], disabledInterfaces := [], sharedSecretAuth := none }
  config.validate
  return config

/-- Control whether the local agent is announced. -/
def withAdvertiseLocal (config : ZeroConfConfig) (advertiseLocal : Bool) : ZeroConfConfig :=
  { config with advertiseLocal }

/-- Add interface inclusion rules. -/
def withEnabledInterfaces (config : ZeroConfConfig) (interfaces : List NetworkInterface) :
    ZeroConfConfig :=
  { config with enabledInterfaces := config.enabledInterfaces ++ interfaces }

/-- Add interface exclusion rules. -/
def withDisabledInterfaces (config : ZeroConfConfig) (interfaces : List NetworkInterface) :
    ZeroConfConfig :=
  { config with disabledInterfaces := config.disabledInterfaces ++ interfaces }

/-- Enable shared-secret authentication. -/
def withSharedSecretAuth (config : ZeroConfConfig) (auth : SharedSecretAuth) : ZeroConfConfig :=
  { config with sharedSecretAuth := some auth }

/-- Configurations that the crate's own operations build. Adding one interface
rule is adding a list of one. -/
inductive Validated : ZeroConfConfig → Prop where
  /-- Accepted by the constructor. -/
  | new {agentId role project branch : String} {port mdnsPort : UInt16} {serviceType : String}
      {initialStatus : AgentStatus} {heartbeatInterval ttl : Duration} {eventCapacity : UInt64}
      {capabilities : List String} {metadata : AgentMetadata} {config : ZeroConfConfig}
      (h : ZeroConfConfig.new agentId role project branch port mdnsPort serviceType initialStatus
        heartbeatInterval ttl eventCapacity capabilities metadata=.ok config) : Validated config
  /-- Announcement policy. -/
  | advertiseLocal {config : ZeroConfConfig} (advertiseLocal : Bool) (h : Validated config) :
      Validated (withAdvertiseLocal config advertiseLocal)
  /-- Interface inclusion rules. -/
  | enabledInterfaces {config : ZeroConfConfig} (interfaces : List NetworkInterface)
      (h : Validated config) : Validated (withEnabledInterfaces config interfaces)
  /-- Interface exclusion rules. -/
  | disabledInterfaces {config : ZeroConfConfig} (interfaces : List NetworkInterface)
      (h : Validated config) : Validated (withDisabledInterfaces config interfaces)
  /-- Shared-secret settings. -/
  | sharedSecretAuth {config : ZeroConfConfig} (auth : SharedSecretAuth) (h : Validated config) :
      Validated (withSharedSecretAuth config auth)

/-- Full DNS-SD instance name of the local agent. -/
def ZeroConfConfig.instanceName (config : ZeroConfConfig) : String :=
  config.agentId ++ "." ++ config.serviceType

/-- Host name of the local service record. -/
def ZeroConfConfig.hostName (config : ZeroConfConfig) : String := config.agentId ++ ".local."

/-- The announcement that a configuration describes. -/
def ZeroConfConfig.localAnnouncement (config : ZeroConfConfig) :
    Except ZeroConfError AgentAnnouncement :=
  let metadata := config.metadata.insert agentIdMetadataKey config.agentId
  let metadata := metadata.insert agentRoleMetadataKey config.role
  let metadata := metadata.insert agentProjectMetadataKey config.project
  let metadata := metadata.insert agentBranchMetadataKey config.branch
  let metadata := metadata.insert agentStatusMetadataKey config.initialStatus.asStr
  let metadata := syncCapabilitiesMetadata metadata config.capabilities
  AgentAnnouncement.new config.instanceName config.agentId config.role config.project config.branch
    config.initialStatus config.port [] metadata

/-- A small configuration with the default timing and service type. -/
def sampleConfig : ZeroConfConfig where
  agentId := "agent-local"
  role := "coder"
  project := "alpha"
  branch := "main"
  port := 8080
  mdnsPort := 5353
  serviceType := "_agent-mesh._tcp.local."
  initialStatus := .idle
  heartbeatInterval := 30000000000
  ttl := 120000000000
  eventCapacity := 256
  capabilities := []
  metadata := ∅
  advertiseLocal := true
  enabledInterfaces := []
  disabledInterfaces := []
  sharedSecretAuth := none

/-- The constructor accepts the fields of the small configuration. -/
theorem sampleConfig_new : ZeroConfConfig.new "agent-local" "coder" "alpha" "main" 8080 5353
    "_agent-mesh._tcp.local." .idle 30000000000 120000000000 256 [] ∅=.ok sampleConfig := by
  decide +kernel

/-- The small configuration is validated. -/
theorem sampleConfig_validated : Validated sampleConfig := .new sampleConfig_new

/-- Verifying settings with one secret. -/
def sampleAuth : SharedSecretAuth where
  signingSecret := "mesh-secret"
  verificationSecrets := ["mesh-secret"]
  mode := .signAndVerify
  signing_mem := List.mem_singleton_self _

end MeshPresence.AgentConfig
