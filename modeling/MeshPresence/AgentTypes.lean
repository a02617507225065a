import MeshPresence.TextOperations
import MeshPresence.FiniteMaps

/-!
# Announcements, registry records and their mutators

The announcement is the payload an agent advertises: typed fields, a capability
list and a string metadata map in which some typed fields are mirrored under
reserved keys. The constructor trims the text fields, rejects blank ones and
reads the capabilities from the metadata; the mutators keep a typed field and
its mirror in step by hand. A registry record is an announcement with the time
of its last observation. Instants and durations are nanosecond counts.
-/

namespace MeshPresence.AgentTypes

open TextOperations

/-- Monotonic clock reading in nanoseconds. -/
abbrev Instant := ℕ

/-- Length of time in nanoseconds. -/
abbrev Duration := ℕ

/-- Errors of the crate. Errors of other packages are kept as their message. -/
inductive ZeroConfError where
  /-- A required text field was empty after trimming. -/
  | emptyField (field : String)
  /-- The service type is not a DNS-SD service type. -/
  | invalidServiceType (serviceType : String)
  /-- The advertised port is zero. -/
  | invalidPort
  /-- The mDNS daemon port is zero. -/
  | invalidMdnsPort
  /-- The event channel capacity is zero. -/
  | invalidEventCapacity
  /-- The TTL does not exceed the heartbeat interval. -/
  | invalidTiming (heartbeatInterval ttl : Duration)
  /-- A metadata key is blank. -/
  | emptyMetadataKey
  /-- A reserved metadata key was used through the generic updaters. -/
  | reservedMetadataKey (key : String)
  /-- A capability name is blank. -/
  | emptyCapability
  /-- A shared secret is blank. -/
  | emptySharedSecret
  /-- A capability name contains a comma. -/
  | invalidCapability (value : String)
  /-- A required TXT property is missing or blank. -/
  | missingTxtProperty (key : String)
  /-- A TXT property value is not UTF-8. -/
  | invalidTxtPropertyEncoding (key : String)
  /-- A status string is not one of the three statuses. -/
  | invalidStatus (value : String)
  /-- A metadata regex query does not compile. -/
  | invalidMetadataRegex (pattern source : String)
  /-- Required authentication metadata is missing or blank. -/
  | missingAuthMetadata (key : String)
  /-- The authentication scheme is unknown. -/
  | invalidAuthScheme (value : String)
  /-- No accepted secret reproduces the signature. -/
  | invalidSharedSecretSignature (agentId : String)
  /-- An error of the mDNS package. -/
  | mdns (message : String)
  /-- A background task failed to join. -/
  | taskJoin (message : String)
  deriving DecidableEq

/-- Address of a network interface. -/
inductive IpAddr where
  /-- Version 4 address. -/
  | v4 (bits : BitVec 32)
  /-- Version 6 address. -/
  | v6 (bits : BitVec 128)
  deriving DecidableEq

/-- Metadata key of the advertised agent identifier. -/
def agentIdMetadataKey : String := "agent_id"

/-- Metadata key of the advertised agent role. -/
def agentRoleMetadataKey : String := "role"

/-- Metadata key of the advertised project. -/
def agentProjectMetadataKey : String := "current_project"

/-- Metadata key of the advertised branch. -/
def agentBranchMetadataKey : String := "current_branch"

/-- Metadata key of the advertised status. -/
def agentStatusMetadataKey : String := "status"

/-- Metadata key of the advertised capabilities. -/
def agentCapabilitiesMetadataKey : String := "capabilities"

/-- Metadata key of the authentication scheme. -/
def agentAuthSchemeMetadataKey : String := "zcm_auth"

/-- Metadata key of the signature. -/
def agentSignatureMetadataKey : String := "zcm_sig"

/-- Additional metadata: a map ordered by key. -/
abbrev AgentMetadata := Std.ExtTreeMap String String

/-- Operational status of an agent. -/
inductive AgentStatus where
  /-- Ready to accept new work. -/
  | idle
  /-- Actively working. -/
  | busy
  /-- Degraded or failed. -/
  | error
  deriving DecidableEq

/-- Canonical wire string of a status. -/
def AgentStatus.asStr : AgentStatus → String
  | .idle => "idle"
  | .busy => "busy"
  | .error => "error"

/-- Parse a status, ignoring surrounding white space and ASCII letter case. -/
def AgentStatus.fromStr (value : String) : Except ZeroConfError AgentStatus :=
  let normalized := toAsciiLowercase (trim value)
  if normalized="idle" then .ok .idle
  else if normalized="busy" then .ok .busy
  else if normalized="error" then .ok .error
  else .error (.invalidStatus normalized)

/-- Every canonical status string parses to its status. -/
@[simp] theorem AgentStatus.fromStr_asStr (status : AgentStatus) :
    AgentStatus.fromStr status.asStr=.ok status := by
  cases status <;> decide

/-- Canonical status strings determine the status. -/
theorem AgentStatus.asStr_inj {left right : AgentStatus} : left.asStr=right.asStr ↔ left=right := by
  cases left <;> cases right <;> decide

/-- Status strings have no white space at their ends and are not empty. -/
theorem AgentStatus.asStr_trimmed (status : AgentStatus) :
    Trimmed status.asStr ∧ status.asStr ≠ "" := by
  cases status <;> decide

/-- Trim a required text field and reject it when nothing is left. -/
def normalizeRequired (value field : String) : Except ZeroConfError String :=
  if trim value="" then .error (.emptyField field) else .ok (trim value)

/-- Trim a metadata key and reject it when nothing is left. -/
def normalizeMetadataKey (key : String) : Except ZeroConfError String :=
  if trim key="" then .error .emptyMetadataKey else .ok (trim key)

/-- Keys that only the crate itself writes. -/
def isReservedMetadataKey (key : String) : Bool :=
  key=agentIdMetadataKey || key=agentRoleMetadataKey || key=agentProjectMetadataKey ||
    key=agentBranchMetadataKey || key=agentStatusMetadataKey ||
    key=agentCapabilitiesMetadataKey || key=agentAuthSchemeMetadataKey ||
    key=agentSignatureMetadataKey

/-- Keys of the authentication metadata. -/
def isAuthMetadataKey (key : String) : Bool :=
  key=agentAuthSchemeMetadataKey || key=agentSignatureMetadataKey

/-- Trim a capability name; it must not be blank or contain the list separator. -/
def normalizeCapability (capability : String) : Except ZeroConfError String :=
  let trimmed := trim capability
  if trimmed="" then .error .emptyCapability
  else if ',' ∈ trimmed.toList then .error (.invalidCapability trimmed)
  else .ok trimmed

/-- Normalize every name, sort, and drop duplicates; the first bad name fails. -/
def canonicalizeCapabilities (capabilities : List String) : Except ZeroConfError (List String) := do
  let normalized ← capabilities.mapM normalizeCapability
  return sortDedup normalized

/-- Mirror the capability list in the metadata. -/
def syncCapabilitiesMetadata (metadata : AgentMetadata) (capabilities : List String) :
    AgentMetadata :=
  if capabilities.isEmpty then metadata.erase agentCapabilitiesMetadataKey
  else metadata.insert agentCapabilitiesMetadataKey (join "," capabilities)

/-- Read the capability list back from its mirror. -/
def capabilitiesFromMetadata (metadata : AgentMetadata) : Except ZeroConfError (List String) :=
  match metadata[agentCapabilitiesMetadataKey]? with
  | some rawCapabilities =>
    canonicalizeCapabilities (((split ',' rawCapabilities).map trim).filter fun s => s ≠ "")
  | none => .ok []

/-- The payload of an mDNS/DNS-SD announcement. -/
structure AgentAnnouncement where
  /-- DNS-SD instance name. -/
  instanceName : String
  /-- Unique agent identifier. -/
  agentId : String
  /-- Declared role. -/
  role : String
  /-- Declared project. -/
  project : String
  /-- Declared branch or workstream. -/
  branch : String
  /-- Current operational status. -/
  status : AgentStatus
  /-- Advertised typed capabilities. -/
  capabilities : List String
  /-- Advertised service port. -/
  port : UInt16
  /-- Known addresses. -/
  addresses : List IpAddr
  /-- Metadata, including the mirrors of typed fields. -/
  metadata : AgentMetadata
  deriving DecidableEq

/-- Validated construction of an announcement. -/
def AgentAnnouncement.new (instanceName agentId role project branch : String)
    (status : AgentStatus) (port : UInt16) (addresses : List IpAddr) (metadata : AgentMetadata) :
    Except ZeroConfError AgentAnnouncement := do
  let instanceName ← normalizeRequired instanceName "instance_name"
  let agentId ← normalizeRequired agentId "agent_id"
  let role ← normalizeRequired role "role"
  let project ← normalizeRequired project "project"
  let branch ← normalizeRequired branch "branch"
  if port=0 then
    throw .invalidPort
  if metadata.keys.any fun key => trim key="" then
    throw .emptyMetadataKey
  let capabilities ← capabilitiesFromMetadata metadata
  let metadata := syncCapabilitiesMetadata metadata capabilities
  return { instanceName, agentId, role, project, branch, status, capabilities, port, addresses,
           metadata }

/-- A small announcement. -/
def sampleAnnouncement : AgentAnnouncement where
  instanceName := "agent-local._agent-mesh._tcp.local."
  agentId := "agent-local"
  role := "coder"
  project := "alpha"
  branch := "main"
  status := .idle
  capabilities := []
  port := 8080
  addresses := []
  metadata := ∅

/-- The constructor accepts the fields of the small announcement. -/
theorem sampleAnnouncement_new :
    AgentAnnouncement.new "agent-local._agent-mesh._tcp.local." "agent-local" "coder" "alpha" "main"
      .idle 8080 [] ∅=.ok sampleAnnouncement := by
  decide +kernel

/-- Replace the status and its mirror. -/
def setStatus (a : AgentAnnouncement) (status : AgentStatus) : AgentAnnouncement :=
  { a with status, metadata := a.metadata.insert agentStatusMetadataKey status.asStr }

/-- Replace the capability list and its mirror. -/
def setCapabilities (a : AgentAnnouncement) (capabilities : List String) :
    Except ZeroConfError AgentAnnouncement := do
  let capabilities ← canonicalizeCapabilities capabilities
  return { a with capabilities, metadata := syncCapabilitiesMetadata a.metadata capabilities }

/-- Add one capability unless it is already listed. -/
def addCapability (a : AgentAnnouncement) (capability : String) :
    Except ZeroConfError AgentAnnouncement := do
  let capability ← normalizeCapability capability
  if a.capabilities.any fun entry => entry=capability then
    return a
  let capabilities := (a.capabilities ++ [capability]).insertionSort (· ≤ ·)
  return { a with capabilities, metadata := syncCapabilitiesMetadata a.metadata capabilities }

/-- Remove one capability wherever it is listed. -/
def removeCapability (a : AgentAnnouncement) (capability : String) :
    Except ZeroConfError AgentAnnouncement := do
  let capability ← normalizeCapability capability
  let capabilities := a.capabilities.filter fun entry => entry ≠ capability
  return { a with capabilities, metadata := syncCapabilitiesMetadata a.metadata capabilities }

/-- Replace the project and its mirror. -/
def setProject (a : AgentAnnouncement) (project : String) :
    Except ZeroConfError AgentAnnouncement := do
  let project ← normalizeRequired project "project"
  return { a with project, metadata := a.metadata.insert agentProjectMetadataKey project }

/-- Replace the branch and its mirror. -/
def setBranch (a : AgentAnnouncement) (branch : String) :
    Except ZeroConfError AgentAnnouncement := do
  let branch ← normalizeRequired branch "branch"
  return { a with branch, metadata := a.metadata.insert agentBranchMetadataKey branch }

/-- Write a metadata entry under a key that is not reserved. -/
def setMetadata (a : AgentAnnouncement) (key value : String) :
    Except ZeroConfError AgentAnnouncement := do
  let key ← normalizeMetadataKey key
  if isReservedMetadataKey key then
    throw (.reservedMetadataKey key)
  return { a with metadata := a.metadata.insert key value }

/-- Remove a metadata entry under a key that is not reserved. -/
def removeMetadata (a : AgentAnnouncement) (key : String) :
    Except ZeroConfError AgentAnnouncement := do
  let key ← normalizeMetadataKey key
  if isReservedMetadataKey key then
    throw (.reservedMetadataKey key)
  return { a with metadata := a.metadata.erase key }

/-- The arguments of one runtime update of the local announcement. -/
inductive LocalUpdate where
  /-- `update_status`. -/
  | status (status : AgentStatus)
  /-- `update_project`. -/
  | project (project : String)
  /-- `update_branch`. -/
  | branch (branch : String)
  /-- `update_metadata`. -/
  | metadata (key value : String)
  /-- `remove_metadata`. -/
  | removeMetadata (key : String)
  /-- `update_capabilities`. -/
  | capabilities (capabilities : List String)
  /-- `add_capability`. -/
  | addCapability (capability : String)
  /-- `remove_capability`. -/
  | removeCapability (capability : String)
  deriving DecidableEq

/-- Run the mutator of a runtime update. A failing mutator changes nothing. -/
def LocalUpdate.apply (a : AgentAnnouncement) : LocalUpdate → Except ZeroConfError AgentAnnouncement
  | .status value => .ok (setStatus a value)
  | .project value => setProject a value
  | .branch value => setBranch a value
  | .metadata key value => setMetadata a key value
  | .removeMetadata key => AgentTypes.removeMetadata a key
  | .capabilities values => setCapabilities a values
  | .addCapability value => AgentTypes.addCapability a value
  | .removeCapability value => AgentTypes.removeCapability a value

/-- Registry record of a discovered agent. -/
structure AgentInfo where
  /-- DNS-SD instance name. -/
  instanceName : String
  /-- Unique agent identifier. -/
  id : String
  /-- Declared role. -/
  role : String
  /-- Declared project. -/
  project : String
  /-- Declared branch or workstream. -/
  branch : String
  /-- Current operational status. -/
  status : AgentStatus
  /-- Advertised typed capabilities. -/
  capabilities : List String
  /-- Advertised service port. -/
  port : UInt16
  /-- Known addresses. -/
  addresses : List IpAddr
  /-- Metadata of the announcement. -/
  metadata : AgentMetadata
  /-- Time of the last successful observation. -/
  lastSeen : Instant
  deriving DecidableEq

/-- Record an announcement that was observed at a given time. -/
def intoAgentInfo (a : AgentAnnouncement) (seenAt : Instant) : AgentInfo where
  instanceName := a.instanceName
  id := a.agentId
  role := a.role
  project := a.project
  branch := a.branch
  status := a.status
  capabilities := a.capabilities
  port := a.port
  addresses := a.addresses
  metadata := a.metadata
  lastSeen := seenAt

/-- The announcement a record was made from: everything except the time. -/
def AgentInfo.payload (agent : AgentInfo) : AgentAnnouncement where
  instanceName := agent.instanceName
  agentId := agent.id
  role := agent.role
  project := agent.project
  branch := agent.branch
  status := agent.status
  capabilities := agent.capabilities
  port := agent.port
  addresses := agent.addresses
  metadata := agent.metadata

@[simp] theorem payload_intoAgentInfo (a : AgentAnnouncement) (seenAt : Instant) :
    (intoAgentInfo a seenAt).payload=a := rfl

@[simp] theorem intoAgentInfo_id (a : AgentAnnouncement) (seenAt : Instant) :
    (intoAgentInfo a seenAt).id=a.agentId := rfl

@[simp] theorem intoAgentInfo_lastSeen (a : AgentAnnouncement) (seenAt : Instant) :
    (intoAgentInfo a seenAt).lastSeen=seenAt := rfl

@[simp] theorem intoAgentInfo_payload (agent : AgentInfo) :
    intoAgentInfo agent.payload agent.lastSeen=agent := rfl

/-- Field-by-field comparison of two records, ignoring the observation times. -/
def samePayloadAs (agent other : AgentInfo) : Bool :=
  agent.instanceName=other.instanceName && agent.id=other.id && agent.role=other.role &&
    agent.project=other.project && agent.branch=other.branch && agent.status=other.status &&
    agent.capabilities=other.capabilities && agent.port=other.port &&
    agent.addresses=other.addresses && agent.metadata=other.metadata

/-- The comparison is equality of the payloads. -/
theorem samePayloadAs_iff (agent other : AgentInfo) :
    samePayloadAs agent other=true ↔ agent.payload=other.payload := by
  simp only [samePayloadAs,AgentInfo.payload,Bool.and_eq_true,decide_eq_true_eq,
    AgentAnnouncement.mk.injEq,and_assoc]

/-- Replace the observation time. -/
def refreshLastSeen (agent : AgentInfo) (seenAt : Instant) : AgentInfo :=
  { agent with lastSeen := seenAt }

@[simp] theorem payload_refreshLastSeen (agent : AgentInfo) (seenAt : Instant) :
    (refreshLastSeen agent seenAt).payload=agent.payload := rfl

@[simp] theorem refreshLastSeen_id (agent : AgentInfo) (seenAt : Instant) :
    (refreshLastSeen agent seenAt).id=agent.id := rfl

/-- A record is stale when it was not observed for more than the TTL. -/
def isStale (agent : AgentInfo) (now : Instant) (ttl : Duration) : Bool :=
  now-agent.lastSeen>ttl

/-- Whether the record lists a capability. -/
def hasCapability (agent : AgentInfo) (capability : String) : Bool :=
  agent.capabilities.any fun entry => entry=capability

end MeshPresence.AgentTypes
