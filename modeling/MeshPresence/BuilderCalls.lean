import MeshPresence.MeshBuilder
import MeshPresence.Reorderings

/-!
# The calls that configure a builder

Every call sets, replaces or extends one setting. Two chains of calls build the same node
whenever they agree on each setting: on the calls for it since the last one that replaces it.
In particular the order between calls for different settings does not matter, and of several
calls that replace a setting only the last one does.
-/

namespace MeshPresence.BuilderCalls

open Reorderings AgentTypes AgentConfig MeshBuilder

/-- Set the local agent identifier. -/
def agentId (builder : ZeroConfMeshBuilder) (agentId : String) : ZeroConfMeshBuilder :=
  { builder with agentId := some agentId }

/-- Set the local agent role. -/
def role (builder : ZeroConfMeshBuilder) (role : String) : ZeroConfMeshBuilder :=
  { builder with role }

/-- Set the project namespace. -/
def project (builder : ZeroConfMeshBuilder) (project : String) : ZeroConfMeshBuilder :=
  { builder with project }

/-- Set the branch or workstream. -/
def branch (builder : ZeroConfMeshBuilder) (branch : String) : ZeroConfMeshBuilder :=
  { builder with branch }

/-- Set the advertised service port. -/
def port (builder : ZeroConfMeshBuilder) (port : UInt16) : ZeroConfMeshBuilder :=
  { builder with port := some port }

/-- Set the port of the mDNS daemon. -/
def mdnsPort (builder : ZeroConfMeshBuilder) (mdnsPort : UInt16) : ZeroConfMeshBuilder :=
  { builder with mdnsPort }

/-- Override the service type. -/
def serviceType (builder : ZeroConfMeshBuilder) (serviceType : String) : ZeroConfMeshBuilder :=
  { builder with serviceType }

/-- Set the initial status. -/
def status (builder : ZeroConfMeshBuilder) (status : AgentStatus) : ZeroConfMeshBuilder :=
  { builder with initialStatus := status }

/-- Set the heartbeat interval. -/
def heartbeatInterval (builder : ZeroConfMeshBuilder) (heartbeatInterval : Duration) :
    ZeroConfMeshBuilder :=
  { builder with heartbeatInterval }

/-- Set the lifetime of records. -/
def ttl (builder : ZeroConfMeshBuilder) (ttl : Duration) : ZeroConfMeshBuilder :=
  { builder with ttl }

/-- Set the capacity of the event channel. -/
def eventCapacity (builder : ZeroConfMeshBuilder) (eventCapacity : UInt64) : ZeroConfMeshBuilder :=
  { builder with eventCapacity }

/-- Add or replace a metadata entry. -/
def metadata (builder : ZeroConfMeshBuilder) (key value : String) : ZeroConfMeshBuilder :=
  { builder with metadata := builder.metadata.insert key value }

/-- Replace the metadata. -/
def metadataMap (builder : ZeroConfMeshBuilder) (metadata : AgentMetadata) : ZeroConfMeshBuilder :=
  { builder with metadata }

/-- Add a typed capability. -/
def capability (builder : ZeroConfMeshBuilder) (capability : String) : ZeroConfMeshBuilder :=
  { builder with capabilities := builder.capabilities ++ [capability] }

/-- Replace the typed capabilities. -/
def capabilities (builder : ZeroConfMeshBuilder) (capabilities : List String) :
    ZeroConfMeshBuilder :=
  { builder with capabilities }

/-- Choose whether the node announces itself. -/
def advertiseLocal (builder : ZeroConfMeshBuilder) (advertiseLocal : Bool) : ZeroConfMeshBuilder :=
  { builder with advertiseLocal }

/-- Sign and verify with one secret. -/
def sharedSecret (builder : ZeroConfMeshBuilder) (secret : String) : ZeroConfMeshBuilder :=
  sharedSecretWithMode builder secret .signAndVerify

/-- Sign and verify with further accepted secrets. -/
def sharedSecretRotation (builder : ZeroConfMeshBuilder) (signingSecret : String)
    (verificationSecrets : List String) : ZeroConfMeshBuilder :=
  sharedSecretRotationWithMode builder signingSecret verificationSecrets .signAndVerify

/-- The settings of a builder. -/
inductive Setting where
  /-- The identifier. -/
  | agentId
  /-- The role. -/
  | role
  /-- The project. -/
  | project
  /-- The branch. -/
  | branch
  /-- The advertised port. -/
  | port
  /-- The port of the daemon. -/
  | mdnsPort
  /-- The service type. -/
  | serviceType
  /-- The initial status. -/
  | initialStatus
  /-- The heartbeat interval. -/
  | heartbeatInterval
  /-- The lifetime of records. -/
  | ttl
  /-- The capacity of the event channel. -/
  | eventCapacity
  /-- The metadata. -/
  | metadata
  /-- The capabilities. -/
  | capabilities
  /-- Whether the node announces itself. -/
  | advertiseLocal
  /-- The included interfaces. -/
  | enabledInterfaces
  /-- The excluded interfaces. -/
  | disabledInterfaces
  /-- The shared secrets. -/
  | sharedSecretAuth
  deriving DecidableEq

/-- The calls. -/
inductive Call where
  /-- Set the identifier. -/
  | agentId (agentId : String)
  /-- Set the role. -/
  | role (role : String)
  /-- Set the project. -/
  | project (project : String)
  /-- Set the branch. -/
  | branch (branch : String)
  /-- Set the advertised port. -/
  | port (port : UInt16)
  /-- Set the port of the daemon. -/
  | mdnsPort (mdnsPort : UInt16)
  /-- Set the service type. -/
  | serviceType (serviceType : String)
  /-- Set the initial status. -/
  | status (status : AgentStatus)
  /-- Set the heartbeat interval. -/
  | heartbeatInterval (heartbeatInterval : Duration)
  /-- Set the lifetime of records. -/
  | ttl (ttl : Duration)
  /-- Set the capacity of the event channel. -/
  | eventCapacity (eventCapacity : UInt64)
  /-- Add or replace a metadata entry. -/
  | metadata (key value : String)
  /-- Replace the metadata. -/
  | metadataMap (metadata : AgentMetadata)
  /-- Add a capability. -/
  | capability (capability : String)
  /-- Replace the capabilities. -/
  | capabilities (capabilities : List String)
  /-- Choose whether the node announces itself. -/
  | advertiseLocal (advertiseLocal : Bool)
  /-- Do not announce the node. -/
  | discoverOnly
  /-- Include an interface. -/
  | enableInterface (interface : NetworkInterface)
  /-- Exclude an interface. -/
  | disableInterface (interface : NetworkInterface)
  /-- Use one secret. -/
  | sharedSecret (secret : String)
  /-- Use one secret in a mode. -/
  | sharedSecretWithMode (secret : String) (mode : SharedSecretMode)
  /-- Use several secrets. -/
  | sharedSecretRotation (signingSecret : String) (verificationSecrets : List String)
  /-- Use several secrets in a mode. -/
  | sharedSecretRotationWithMode (signingSecret : String) (verificationSecrets : List String)
      (mode : SharedSecretMode)
  deriving DecidableEq

/-- The builder after a call. -/
def Call.run (builder : ZeroConfMeshBuilder) : Call → ZeroConfMeshBuilder
  | .agentId value => BuilderCalls.agentId builder value
  | .role value => BuilderCalls.role builder value
  | .project value => BuilderCalls.project builder value
  | .branch value => BuilderCalls.branch builder value
  | .port value => BuilderCalls.port builder value
  | .mdnsPort value => BuilderCalls.mdnsPort builder value
  | .serviceType value => BuilderCalls.serviceType builder value
  | .status value => BuilderCalls.status builder value
  | .heartbeatInterval value => BuilderCalls.heartbeatInterval builder value
  | .ttl value => BuilderCalls.ttl builder value
  | .eventCapacity value => BuilderCalls.eventCapacity builder value
  | .metadata key value => BuilderCalls.metadata builder key value
  | .metadataMap value => BuilderCalls.metadataMap builder value
  | .capability value => BuilderCalls.capability builder value
  | .capabilities value => BuilderCalls.capabilities builder value
  | .advertiseLocal value => BuilderCalls.advertiseLocal builder value
  | .discoverOnly => MeshBuilder.discoverOnly builder
  | .enableInterface value => MeshBuilder.enableInterface builder value
  | .disableInterface value => MeshBuilder.disableInterface builder value
  | .sharedSecret secret => BuilderCalls.sharedSecret builder secret
  | .sharedSecretWithMode secret mode => MeshBuilder.sharedSecretWithMode builder secret mode
  | .sharedSecretRotation signing accepted =>
    BuilderCalls.sharedSecretRotation builder signing accepted
  | .sharedSecretRotationWithMode signing accepted mode =>
    MeshBuilder.sharedSecretRotationWithMode builder signing accepted mode

/-- The setting that a call is for. -/
def Call.setting : Call → Setting
  | .agentId _ => .agentId
  | .role _ => .role
  | .project _ => .project
  | .branch _ => .branch
  | .port _ => .port
  | .mdnsPort _ => .mdnsPort
  | .serviceType _ => .serviceType
  | .status _ => .initialStatus
  | .heartbeatInterval _ => .heartbeatInterval
  | .ttl _ => .ttl
  | .eventCapacity _ => .eventCapacity
  | .metadata _ _ => .metadata
  | .metadataMap _ => .metadata
  | .capability _ => .capabilities
  | .capabilities _ => .capabilities
  | .advertiseLocal _ => .advertiseLocal
  | .discoverOnly => .advertiseLocal
  | .enableInterface _ => .enabledInterfaces
  | .disableInterface _ => .disabledInterfaces
  | .sharedSecret _ => .sharedSecretAuth
  | .sharedSecretWithMode _ _ => .sharedSecretAuth
  | .sharedSecretRotation _ _ => .sharedSecretAuth
  | .sharedSecretRotationWithMode _ _ _ => .sharedSecretAuth

/-- The call replaces the setting; others extend it. -/
def Call.replaces : Call → Bool
  | .metadata _ _ => false
  | .capability _ => false
  | .enableInterface _ => false
  | .disableInterface _ => false
  | _ => true

/-- A builder with one of the settings and defaults for the others. -/
def only (setting : Setting) (builder : ZeroConfMeshBuilder) : ZeroConfMeshBuilder :=
  match setting with
  | .agentId => { agentId := builder.agentId }
  | .role => { role := builder.role }
  | .project => { project := builder.project }
  | .branch => { branch := builder.branch }
  | .port => { port := builder.port }
  | .mdnsPort => { mdnsPort := builder.mdnsPort }
  | .serviceType => { serviceType := builder.serviceType }
  | .initialStatus => { initialStatus := builder.initialStatus }
  | .heartbeatInterval => { heartbeatInterval := builder.heartbeatInterval }
  | .ttl => { ttl := builder.ttl }
  | .eventCapacity => { eventCapacity := builder.eventCapacity }
  | .metadata => { metadata := builder.metadata }
  | .capabilities => { capabilities := builder.capabilities }
  | .advertiseLocal => { advertiseLocal := builder.advertiseLocal }
  | .enabledInterfaces => { enabledInterfaces := builder.enabledInterfaces }
  | .disabledInterfaces => { disabledInterfaces := builder.disabledInterfaces }
  | .sharedSecretAuth => { sharedSecretAuth := builder.sharedSecretAuth }

/-- Builders with the same settings are equal. -/
theorem eq_of_only {left right : ZeroConfMeshBuilder}
    (h : ∀ setting, only setting left=only setting right) : left=right := by
  have hfield := fun {α : Type} (read : ZeroConfMeshBuilder → α) setting =>
    congrArg read (h setting)
  cases left
  cases right
  congr 1
  · exact hfield (·.agentId) .agentId
  · exact hfield (·.role) .role
  · exact hfield (·.project) .project
  · exact hfield (·.branch) .branch
  · exact hfield (·.port) .port
  · exact hfield (·.mdnsPort) .mdnsPort
  · exact hfield (·.serviceType) .serviceType
  · exact hfield (·.initialStatus) .initialStatus
  · exact hfield (·.heartbeatInterval) .heartbeatInterval
  · exact hfield (·.ttl) .ttl
  · exact hfield (·.eventCapacity) .eventCapacity
  · exact hfield (·.metadata) .metadata
  · exact hfield (·.capabilities) .capabilities
  · exact hfield (·.advertiseLocal) .advertiseLocal
  · exact hfield (·.enabledInterfaces) .enabledInterfaces
  · exact hfield (·.disabledInterfaces) .disabledInterfaces
  · exact hfield (·.sharedSecretAuth) .sharedSecretAuth

/-- The effect of a call on a setting. -/
def effect (setting : Setting) (call : Call) : Option Call :=
  if call.setting=setting then some call else none

/-- A setting after a call for it. -/
def applyCall (content : ZeroConfMeshBuilder) (call : Call) : ZeroConfMeshBuilder :=
  only call.setting (call.run content)

/-- A call changes its own setting, from the content that it had. -/
theorem only_run_self (builder : ZeroConfMeshBuilder) (call : Call) :
    only call.setting (call.run builder)=applyCall (only call.setting builder) call := by
  cases call <;> rfl

/-- A call leaves the other settings alone. -/
theorem only_run_other (builder : ZeroConfMeshBuilder) {call : Call} {setting : Setting}
    (h : call.setting ≠ setting) : only setting (call.run builder)=only setting builder := by
  cases call <;> cases setting <;> first | rfl | exact absurd rfl h

/-- Calls act on every setting by itself. -/
theorem calls_act : ActsLocally (fun _ : ZeroConfMeshBuilder => True) (fun _ : Call => True)
    (fun builder setting => only setting builder) Call.run effect applyCall where
  keeps := fun _ _ _ => trivial
  acts := fun builder call setting _ _ => by
    unfold effect
    split
    · next h =>
      rw [←h]
      exact only_run_self builder call
    · next h => exact only_run_other builder h

/-- A call that replaces its setting does not depend on the content. -/
theorem applyCall_replaces {call : Call} (h : call.replaces=true)
    (content other : ZeroConfMeshBuilder) : applyCall content call=applyCall other call := by
  cases call <;> first | rfl | cases h

/-- The calls that count for a setting: those for it since the last one that replaces it. -/
def effective (setting : Setting) (calls : List Call) : List Call :=
  sinceOverwrite Call.replaces (history effect setting calls)

/-- The builder after a chain of calls. -/
def runCalls (builder : ZeroConfMeshBuilder) (calls : List Call) : ZeroConfMeshBuilder :=
  calls.foldl Call.run builder

/-- Chains of calls that agree on the calls that count for each setting lead to the same builder,
and so to the same configuration or the same error. -/
theorem calls_by_setting (builder : ZeroConfMeshBuilder) {calls other : List Call}
    (h : ∀ setting, effective setting calls=effective setting other) :
    runCalls builder calls=runCalls builder other := by
  refine eq_of_only fun setting => ?_
  have hcontent : ∀ calls, only setting (runCalls builder calls)=
      (effective setting calls).foldl applyCall (only setting builder) := fun calls => by
    rw [effective,foldl_sinceOverwrite fun call hcall => applyCall_replaces hcall]
    exact calls_act.run trivial (fun _ _ => trivial) setting
  rw [hcontent,hcontent,h]

/-- Another order, an earlier role and capabilities that are replaced later. -/
theorem calls_by_setting_chain :
    runCalls {} [.role "coder",.capability "build",.port 7000,.capabilities ["review"],
      .role "reviewer",.capability "test"]=
    runCalls {} [.capabilities ["review"],.capability "test",.role "reviewer",.port 7000] :=
  calls_by_setting {} fun setting => by cases setting <;> decide +kernel

end MeshPresence.BuilderCalls
