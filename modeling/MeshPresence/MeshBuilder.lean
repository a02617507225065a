import MeshPresence.SignatureVerification
import MeshPresence.ValidatedConfig

/-!
# The builder of a node

The builder collects settings, with defaults for all but the port, and turns them into a
configuration when the node is built. A configuration that it builds is validated, and it
has shared-secret settings exactly when the builder was given a secret: those that rotation
makes of the given secrets and mode.
-/

namespace MeshPresence.MeshBuilder

open TextOperations FallibleSteps AgentTypes AgentConfig
open SignatureVerification ValidatedConfig

/-- Shared-secret settings that were not checked yet. -/
structure SharedSecretBuilderConfig where
  /-- Secret that signs local announcements. -/
  signingSecret : String
  /-- Further secrets accepted from peers. -/
  verificationSecrets : List String
  /-- Whether peers are verified. -/
  mode : SharedSecretMode
  deriving DecidableEq

/-- Settings of a node that is not built yet. -/
structure ZeroConfMeshBuilder where
  /-- Identifier of the local agent; generated when missing. -/
  agentId : Option String := none
  /-- Declared role. -/
  role : String := "agent"
  /-- Declared project. -/
  project : String := "default"
  /-- Declared branch or workstream. -/
  branch : String := "unknown"
  /-- Advertised port; building fails when missing. -/
  port : Option UInt16 := none
  /-- UDP port of the mDNS daemon. -/
  mdnsPort : UInt16 := 5353
  /-- DNS-SD service type. -/
  serviceType : String := "_agent-mesh._tcp.local."
  /-- Status at start-up. -/
  initialStatus : AgentStatus := .idle
  /-- Interval between local refreshes and between sweeps. -/
  heartbeatInterval : Duration := 30000000000
  /-- Age beyond which records are evicted. -/
  ttl : Duration := 120000000000
  /-- Capacity of the event channel. -/
  eventCapacity : UInt64 := 256
  /-- Further metadata of the local agent. -/
  metadata : AgentMetadata := ∅
  /-- Typed capabilities of the local agent. -/
  capabilities : List String := []
  /-- Whether the local agent is announced. -/
  advertiseLocal : Bool := true
  /-- Interfaces the daemon includes. -/
  enabledInterfaces : List NetworkInterface := []
  /-- Interfaces the daemon excludes. -/
  disabledInterfaces : List NetworkInterface := []
  /-- Shared-secret settings, when enabled. -/
  sharedSecretAuth : Option SharedSecretBuilderConfig := none
  deriving DecidableEq

/-- Browse peers without advertising the local agent. -/
def discoverOnly (builder : ZeroConfMeshBuilder) : ZeroConfMeshBuilder :=
  { builder with advertiseLocal := false }

/-- Add an interface inclusion rule. -/
def enableInterface (builder : ZeroConfMeshBuilder) (interface : NetworkInterface) :
    ZeroConfMeshBuilder :=
  { builder with enabledInterfaces := builder.enabledInterfaces ++ [interface] }

/-- Add an interface exclusion rule. -/
def disableInterface (builder : ZeroConfMeshBuilder) (interface : NetworkInterface) :
    ZeroConfMeshBuilder :=
  { builder with disabledInterfaces := builder.disabledInterfaces ++ [interface] }

/-- Enable shared-secret authentication with one secret. -/
def sharedSecretWithMode (builder : ZeroConfMeshBuilder) (secret : String)
    (mode : SharedSecretMode) : ZeroConfMeshBuilder :=
  { builder with
    sharedSecretAuth := some { signingSecret := secret, verificationSecrets := [], mode } }

/-- Enable shared-secret authentication that accepts further secrets. -/
def sharedSecretRotationWithMode (builder : ZeroConfMeshBuilder) (signingSecret : String)
    (verificationSecrets : List String) (mode : SharedSecretMode) : ZeroConfMeshBuilder :=
  { builder with sharedSecretAuth := some { signingSecret, verificationSecrets, mode } }

/-- The configuration that a builder describes; a missing identifier is the generated one. -/
def buildConfig (generatedId : String) (builder : ZeroConfMeshBuilder) :
    Except ZeroConfError ZeroConfConfig := do
  let agentId := builder.agentId.getD generatedId
  let port ← builder.port.elim (.error .invalidPort) .ok
  let capabilities ← canonicalizeCapabilities builder.capabilities
  let config ← ZeroConfConfig.new agentId builder.role builder.project builder.branch port
    builder.mdnsPort builder.serviceType builder.initialStatus builder.heartbeatInterval builder.ttl
    builder.eventCapacity capabilities builder.metadata
  let config := withAdvertiseLocal config builder.advertiseLocal
  let config := withEnabledInterfaces config builder.enabledInterfaces
  let config := withDisabledInterfaces config builder.disabledInterfaces
  match builder.sharedSecretAuth with
  | some auth =>
    let auth ← SharedSecretAuth.withRotation auth.signingSecret auth.verificationSecrets auth.mode
    return withSharedSecretAuth config auth
  | none => return config

/-- What a built configuration has from its builder. -/
structure Built (builder : ZeroConfMeshBuilder) (config : ZeroConfConfig) : Prop where
  /-- It is validated. -/
  validated : Validated config
  /-- It advertises as the builder says. -/
  advertiseLocal : config.advertiseLocal=builder.advertiseLocal
  /-- It has the timing of the builder. -/
  timing : config.heartbeatInterval=builder.heartbeatInterval ∧ config.ttl=builder.ttl
  /-- Without a secret there are no shared-secret settings. -/
  unsecured : builder.sharedSecretAuth=none → config.sharedSecretAuth=none
  /-- With secrets, the settings are those of a rotation. -/
  secured : ∀ secrets, builder.sharedSecretAuth=some secrets → ∃ auth,
    SharedSecretAuth.withRotation secrets.signingSecret secrets.verificationSecrets secrets.mode=
      .ok auth ∧ config.sharedSecretAuth=some auth

/-- The constructor stores the timing and advertises without shared-secret settings. -/
theorem new_fields {agentId role project branch : String} {port mdnsPort : UInt16}
    {serviceType : String} {initialStatus : AgentStatus} {heartbeatInterval ttl : Duration}
    {eventCapacity : UInt64} {capabilities : List String} {metadata : AgentMetadata}
    {config : ZeroConfConfig}
    (h : ZeroConfConfig.new agentId role project branch port mdnsPort serviceType initialStatus
      heartbeatInterval ttl eventCapacity capabilities metadata=.ok config) :
    config.heartbeatInterval=heartbeatInterval ∧ config.ttl=ttl ∧ config.sharedSecretAuth=none := by
  obtain ⟨-,-,rfl⟩ := new_config h
  exact ⟨rfl,rfl,rfl⟩

/-- Building keeps what the builder says. -/
theorem buildConfig_built {generatedId : String} {builder : ZeroConfMeshBuilder}
    {config : ZeroConfConfig} (h : buildConfig generatedId builder=.ok config) :
    Built builder config := by
  obtain ⟨port,-,h⟩ := bind_ok h
  obtain ⟨capabilities,-,h⟩ := bind_ok h
  obtain ⟨base,hbase,h⟩ := bind_ok h
  obtain ⟨hheartbeat,httl,hsecret⟩ := new_fields hbase
  have hpolicies : Validated (withDisabledInterfaces (withEnabledInterfaces
      (withAdvertiseLocal base builder.advertiseLocal) builder.enabledInterfaces)
      builder.disabledInterfaces) :=
    .disabledInterfaces _ (.enabledInterfaces _ (.advertiseLocal _ (.new hbase)))
  cases hauth : builder.sharedSecretAuth with
  | none =>
    simp only [hauth] at h
    cases h
    refine ⟨hpolicies,rfl,⟨hheartbeat,httl⟩,fun _ => hsecret,fun other h => ?_⟩
    cases hauth.symm.trans h
  | some secrets =>
    simp only [hauth] at h
    obtain ⟨auth,hrotation,h⟩ := bind_ok h
    cases h
    refine ⟨.sharedSecretAuth auth hpolicies,rfl,⟨hheartbeat,httl⟩,fun h => ?_,fun other h => ?_⟩
    · cases hauth.symm.trans h
    · cases hauth.symm.trans h
      exact ⟨auth,hrotation,rfl⟩

/-- Rotation accepts exactly the given secrets after trimming, in the given mode. -/
theorem withRotation_ok {signingSecret : String} {verificationSecrets : List String}
    {mode : SharedSecretMode} {auth : SharedSecretAuth}
    (h : SharedSecretAuth.withRotation signingSecret verificationSecrets mode=.ok auth) :
    auth.mode=mode ∧ ∀ secret, secret ∈ auth.verificationSecrets ↔
      secret ∈ (signingSecret :: verificationSecrets).map trim := by
  obtain ⟨signing,hsigning,h⟩ := bind_ok h
  obtain ⟨normalized,hnormalized,h⟩ := bind_ok h
  cases h
  refine ⟨rfl,fun secret => ?_⟩
  rw [mem_sortDedup,mem_withSigningSecret,List.map_cons,List.mem_cons,List.mem_map,
    normalizeSharedSecret_ok hsigning,or_comm]
  refine or_congr_right ⟨fun hsecret => ?_,?_⟩
  · obtain ⟨given,hgiven,hn⟩ := exists_of_mem_mapM hnormalized hsecret
    exact ⟨given,hgiven,(normalizeSharedSecret_ok hn).symm⟩
  · rintro ⟨given,hgiven,rfl⟩
    obtain ⟨name,hname,hn⟩ := exists_mem_of_mapM hnormalized hgiven
    rwa [←normalizeSharedSecret_ok hn]

/-- The defaults with a nonblank identifier and a port build a node. -/
theorem defaults_build {agentId : String} (hid : trim agentId ≠ "") {port : UInt16}
    (hport : port ≠ 0) (generatedId : String) :
    ∃ config, buildConfig generatedId { agentId := some agentId, port := some port }=.ok config := by
  have hnormal : normalizeRequired agentId "agent_id"=.ok (trim agentId) := if_neg hid
  have hfixed : ∀ entry ∈ [("agent","role"),("default","project"),("unknown","branch"),
      ("_agent-mesh._tcp.local.","service_type")],
      normalizeRequired entry.1 entry.2=.ok entry.1 := by decide +kernel
  simp only [List.forall_mem_cons] at hfixed
  obtain ⟨hrole,hproject,hbranch,htype,-⟩ := hfixed
  let built : ZeroConfConfig :=
    { sampleConfig with agentId := trim agentId, role := "agent", project := "default"
                        branch := "unknown", port }
  have hsound := sound_of_validated sampleConfig_validated
  have hservice : isValidServiceType sampleConfig.serviceType=true := by decide +kernel
  have hvalidate : built.validate=.ok () :=
    validate_iff.mpr ⟨hport,hsound.mdnsPort,hsound.timing,hsound.eventCapacity,hservice,hsound.keys,
      hsound.unreserved⟩
  have hnew : ZeroConfConfig.new agentId "agent" "default" "unknown" port 5353
      "_agent-mesh._tcp.local." .idle 30000000000 120000000000 256 [] ∅=.ok built := by
    rw [ZeroConfConfig.new,hnormal,ok_bind,hrole,ok_bind,hproject,ok_bind,hbranch,ok_bind,htype,
      ok_bind]
    exact congrArg (fun x : Except ZeroConfError Unit => x >>= fun _ => .ok built) hvalidate
  have hcapabilities : canonicalizeCapabilities []=.ok [] := rfl
  refine ⟨withDisabledInterfaces (withEnabledInterfaces (withAdvertiseLocal built true) []) [],?_⟩
  rw [buildConfig]
  simp only [Option.getD_some,Option.elim_some,hcapabilities,ok_bind,hnew]
  rfl

end MeshPresence.MeshBuilder
