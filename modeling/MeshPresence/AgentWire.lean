import MeshPresence.AgentConfig

/-!
# TXT properties and shared-secret signatures

An announcement is encoded as the list of its metadata entries, in key order,
after the mirrors of the typed fields are rewritten. Decoding collects the
properties into a map, requires the mirrors and builds a new announcement from
them. The signature of an announcement is a tag of a newline-separated payload
of `key=value` lines; the tag function itself is a parameter whose only
assumed property is that tags are not blank.
-/

namespace MeshPresence.AgentWire

open TextOperations AgentTypes AgentConfig

/-- One TXT property: a key and an optional byte string. -/
structure TxtProperty where
  /-- Property key. -/
  key : String
  /-- Raw value; a property without `=` has none. -/
  val : Option ByteArray

/-- The TXT properties of a service, in order. -/
abbrev TxtProperties := List TxtProperty

/-- A metadata entry becomes a property with the UTF-8 bytes of its value. -/
def TxtProperty.ofEntry (entry : String × String) : TxtProperty :=
  { key := entry.1, val := some entry.2.toUTF8 }

/-- Metadata with the mirrors of all typed fields rewritten. -/
def canonicalMetadata (a : AgentAnnouncement) : AgentMetadata :=
  let metadata := a.metadata.insert agentIdMetadataKey a.agentId
  let metadata := metadata.insert agentRoleMetadataKey a.role
  let metadata := metadata.insert agentProjectMetadataKey a.project
  let metadata := metadata.insert agentBranchMetadataKey a.branch
  let metadata := metadata.insert agentStatusMetadataKey a.status.asStr
  syncCapabilitiesMetadata metadata a.capabilities

/-- Encode an announcement as TXT properties. -/
def toTxtProperties (a : AgentAnnouncement) : TxtProperties :=
  (canonicalMetadata a).toList.map TxtProperty.ofEntry

/-- Decode one property; a missing value is the empty text. -/
def entryOfProperty (property : TxtProperty) : Except ZeroConfError (String × String) :=
  match property.val with
  | some value =>
    match String.fromUTF8? value with
    | some text => .ok (property.key,text)
    | none => .error (.invalidTxtPropertyEncoding property.key)
  | none => .ok (property.key,"")

/-- Collect TXT properties into a map; of equal keys the last one wins. -/
def metadataFromTxtProperties (properties : TxtProperties) : Except ZeroConfError AgentMetadata := do
  let entries ← properties.mapM entryOfProperty
  return Std.ExtTreeMap.ofList entries

/-- Look up a canonical key; its value must not be blank. -/
def requiredMetadata (metadata : AgentMetadata) (key : String) : Except ZeroConfError String :=
  match metadata[key]?.filter fun value => trim value ≠ "" with
  | some value => .ok value
  | none => .error (.missingTxtProperty key)

/-- Look up an authentication key; its value must not be blank. -/
def requiredAuthMetadata (metadata : AgentMetadata) (key : String) : Except ZeroConfError String :=
  match metadata[key]?.filter fun value => trim value ≠ "" with
  | some value => .ok value
  | none => .error (.missingAuthMetadata key)

/-- Build an announcement from TXT properties received from the network. -/
def fromTxtProperties (instanceName : String) (port : UInt16) (addresses : List IpAddr)
    (properties : TxtProperties) : Except ZeroConfError AgentAnnouncement := do
  let metadata ← metadataFromTxtProperties properties
  let agentId ← requiredMetadata metadata agentIdMetadataKey
  let role ← requiredMetadata metadata agentRoleMetadataKey
  let project ← requiredMetadata metadata agentProjectMetadataKey
  let branch ← requiredMetadata metadata agentBranchMetadataKey
  let status ← AgentStatus.fromStr (← requiredMetadata metadata agentStatusMetadataKey)
  AgentAnnouncement.new instanceName agentId role project branch status port addresses metadata

/-- A resolved mDNS/DNS-SD service. The addresses come from an unordered set
and are listed in the order of this resolution. -/
structure ResolvedService where
  /-- Full service name. -/
  fullname : String
  /-- Service port. -/
  port : UInt16
  /-- Addresses, in iteration order. -/
  addresses : List IpAddr
  /-- TXT properties. -/
  properties : TxtProperties

/-- Build an announcement from a resolved service. -/
def fromResolvedService (service : ResolvedService) : Except ZeroConfError AgentAnnouncement :=
  fromTxtProperties service.fullname service.port service.addresses service.properties

/-- The keyed hash behind signatures: the textual tag of a payload under a
secret. Tags are encodings of a fixed number of bytes and therefore not blank. -/
structure Mac where
  /-- Tag of a payload under a secret. -/
  tag : String → String → String
  /-- Tags are not blank. -/
  tag_not_blank : ∀ secret payload, trim (tag secret payload) ≠ ""

/-- Tags of the real keyed hash for a few secrets and payloads. -/
def recordedTags : List ((String × String) × String) :=
  [(("mesh-secret","instance_name=agent-local._agent-mesh._tcp.local.\nagent_id=agent-local\n" ++
      "role=coder\nproject=alpha\nbranch=main\nstatus=idle\ncapabilities=\nport=8080"),
    "BQwpPWQcVenwDQbN9xJsn79Ppr7sxNmyrkLSe1I0SrA"),
   (("mesh-secret","instance_name=agent-local._agent-mesh._tcp.local.\nagent_id=agent-local\n" ++
      "role=coder\nproject=alpha\nbranch=main\nstatus=busy\ncapabilities=\nport=8080"),
    "wu0KbYYctV7fYSbnPKqcrJuzafmTywCzc4FhsfJgNA0"),
   (("mesh-secret","instance_name=agent-peer._agent-mesh._tcp.local.\nagent_id=agent-peer\n" ++
      "role=reviewer\nproject=alpha\nbranch=main\nstatus=idle\ncapabilities=plan,review\n" ++
      "port=8081\nmetadata:team=blue"),
    "X8pf8BXClj_eCWvlRrSxn82PjvvbnTbZ-PlKfnKstc4"),
   (("mesh-secret","instance_name=agent-local._agent-mesh._tcp.local.\nagent_id=agent-local\n" ++
      "role=coder\nproject=alpha\nbranch=main\nstatus=busy\ncapabilities=plan,review\n" ++
      "port=8080\nmetadata:team=blue"),
    "CHf0CVaWStzjutfsD3xB0xBJhPCOIWnRxNzLmj1Oc8Y")]

/-- A recorded tag, or one fixed tag of the same shape. -/
def recordedTag (secret payload : String) : String :=
  (recordedTags.lookup (secret,payload)).getD "AAAAAAAAAAAAAAAAAAAAAAAAAAAAAAAAAAAAAAAAAAA"

/-- Recorded tags are not blank. -/
theorem recordedTag_not_blank (secret payload : String) :
    trim (recordedTag secret payload) ≠ "" := by
  have hall : ∀ entry ∈ recordedTags, trim entry.2 ≠ "" := by decide
  cases h : recordedTags.lookup (secret,payload) with
  | none =>
    rw [recordedTag,h]
    decide
  | some tag =>
    obtain ⟨before,after,hsplit,-⟩ := List.lookup_eq_some_iff.mp h
    rw [recordedTag,h]
    exact hall ((secret,payload),tag) (hsplit ▸ List.mem_append_right _ List.mem_cons_self)

/-- The keyed hash on the recorded inputs. -/
def Mac.recorded : Mac where
  tag := recordedTag
  tag_not_blank := recordedTag_not_blank

/-- The text that a signature covers. -/
def signaturePayload (a : AgentAnnouncement) : String :=
  let payload := ["instance_name=" ++ a.instanceName, "agent_id=" ++ a.agentId, "role=" ++ a.role,
    "project=" ++ a.project, "branch=" ++ a.branch, "status=" ++ a.status.asStr,
    "capabilities=" ++ join "," a.capabilities, "port=" ++ a.port.toNat.repr]
  let metadata := a.metadata.toList.filter fun entry =>
    !isReservedMetadataKey entry.1 && !isAuthMetadataKey entry.1
  join "\n" (payload ++ metadata.map fun entry => "metadata:" ++ entry.1 ++ "=" ++ entry.2)

/-- Signature of an announcement under one secret. -/
def sharedSecretSignature (mac : Mac) (a : AgentAnnouncement) (secret : String) : String :=
  mac.tag secret (signaturePayload a)

/-- Name of the only authentication scheme. -/
def sharedSecretScheme : String := "shared_secret_hmac_sha256"

/-- Write the authentication scheme and the signature into the metadata. -/
def applySharedSecretAuth (mac : Mac) (a : AgentAnnouncement) (auth : SharedSecretAuth) :
    AgentAnnouncement :=
  let a := { a with metadata := a.metadata.insert agentAuthSchemeMetadataKey sharedSecretScheme }
  let signature := sharedSecretSignature mac a auth.signingSecret
  { a with metadata := a.metadata.insert agentSignatureMetadataKey signature }

/-- Check scheme and signature against the accepted secrets. -/
def verifySharedSecretAuth (mac : Mac) (a : AgentAnnouncement) (auth : SharedSecretAuth) :
    Except ZeroConfError Unit := do
  let scheme ← requiredAuthMetadata a.metadata agentAuthSchemeMetadataKey
  let signature ← requiredAuthMetadata a.metadata agentSignatureMetadataKey
  if scheme ≠ sharedSecretScheme then
    throw (.invalidAuthScheme scheme)
  if auth.verificationSecrets.any fun secret => signature=sharedSecretSignature mac a secret then
    return ()
  else
    throw (.invalidSharedSecretSignature a.agentId)

end MeshPresence.AgentWire
