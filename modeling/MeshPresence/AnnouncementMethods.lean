import MeshPresence.AnnouncementInvariant

/-!
# The mutators as methods that write fields in place

Each mutator is a program over the announcement that fails or writes single fields
one after the other; what was written before a failure stays written. Running one is
the same as settling the announcement-to-announcement form of the mutator, so every
write comes after the last check that can fail.
-/

namespace MeshPresence.AnnouncementMethods

open AgentTypes AgentConfig AgentWire AnnouncementInvariant

/-- A method with mutable access to an announcement. -/
abbrev Method := EStateM ZeroConfError AgentAnnouncement Unit

/-- Result of a fallible computation that does not touch the announcement. -/
def check {α : Type} (x : Except ZeroConfError α) : EStateM ZeroConfError AgentAnnouncement α :=
  MonadExcept.ofExcept x

/-- Write the metadata. -/
def writeMetadata (f : AgentMetadata → AgentMetadata) : Method :=
  modify fun a => { a with metadata := f a.metadata }

/-- Write the capability list. -/
def writeCapabilities (f : List String → List String) : Method :=
  modify fun a => { a with capabilities := f a.capabilities }

/-- Write the mirror of the capability list as it stands. -/
def writeCapabilitiesMirror : Method := do
  let a ← get
  writeMetadata fun metadata => syncCapabilitiesMetadata metadata a.capabilities

/-- Replace the status and its mirror. -/
def setStatus (status : AgentStatus) : Method := do
  modify fun a => { a with status }
  writeMetadata fun metadata => metadata.insert agentStatusMetadataKey status.asStr

/-- Replace the capability list and its mirror. -/
def setCapabilities (capabilities : List String) : Method := do
  let capabilities ← check (canonicalizeCapabilities capabilities)
  writeCapabilities fun _ => capabilities
  writeCapabilitiesMirror

/-- Push a capability that is not listed, sort, and write the mirror. -/
def addCapability (capability : String) : Method := do
  let capability ← check (normalizeCapability capability)
  let a ← get
  if !a.capabilities.any fun entry => entry=capability then
    writeCapabilities fun capabilities => capabilities ++ [capability]
    writeCapabilities fun capabilities => capabilities.insertionSort (· ≤ ·)
    writeCapabilitiesMirror

/-- Drop a capability wherever it is listed and write the mirror. -/
def removeCapability (capability : String) : Method := do
  let capability ← check (normalizeCapability capability)
  writeCapabilities fun capabilities => capabilities.filter fun entry => entry ≠ capability
  writeCapabilitiesMirror

/-- Write the mirror of the project, then the project. -/
def setProject (project : String) : Method := do
  let project ← check (normalizeRequired project "project")
  writeMetadata fun metadata => metadata.insert agentProjectMetadataKey project
  modify fun a => { a with project }

/-- Write the mirror of the branch, then the branch. -/
def setBranch (branch : String) : Method := do
  let branch ← check (normalizeRequired branch "branch")
  writeMetadata fun metadata => metadata.insert agentBranchMetadataKey branch
  modify fun a => { a with branch }

/-- Write an entry under a key that is not reserved. -/
def setMetadata (key value : String) : Method := do
  let key ← check (normalizeMetadataKey key)
  if isReservedMetadataKey key then
    throw (.reservedMetadataKey key)
  writeMetadata fun metadata => metadata.insert key value

/-- Remove the entry of a key that is not reserved. -/
def removeMetadata (key : String) : Method := do
  let key ← check (normalizeMetadataKey key)
  if isReservedMetadataKey key then
    throw (.reservedMetadataKey key)
  writeMetadata fun metadata => metadata.erase key

/-- Write the scheme, then the signature of the announcement as it stands. -/
def applySharedSecretAuth (mac : Mac) (auth : SharedSecretAuth) : Method := do
  writeMetadata fun metadata => metadata.insert agentAuthSchemeMetadataKey sharedSecretScheme
  let a ← get
  writeMetadata fun metadata =>
    metadata.insert agentSignatureMetadataKey (sharedSecretSignature mac a auth.signingSecret)

/-- The method of a runtime update. -/
def updateMethod : LocalUpdate → Method
  | .status value => setStatus value
  | .project value => setProject value
  | .branch value => setBranch value
  | .metadata key value => setMetadata key value
  | .removeMetadata key => removeMetadata key
  | .capabilities values => setCapabilities values
  | .addCapability value => addCapability value
  | .removeCapability value => removeCapability value

/-- The method of a mutator. -/
def mutatorMethod (mac : Mac) : Mutator → Method
  | .update call => updateMethod call
  | .applySharedSecretAuth auth => applySharedSecretAuth mac auth

/-- The announcement that a method leaves behind, also when it fails. -/
def Method.leaves (method : Method) (a : AgentAnnouncement) : AgentAnnouncement :=
  match method.run a with
  | .ok _ b => b
  | .error _ b => b

/-- Whether a method succeeds. -/
def Method.succeeds (method : Method) (a : AgentAnnouncement) : Bool :=
  match method.run a with
  | .ok _ _ => true
  | .error _ _ => false

/-- The run of a method that writes a new announcement or fails without a write. -/
def settle (a : AgentAnnouncement) :
    Except ZeroConfError AgentAnnouncement → EStateM.Result ZeroConfError AgentAnnouncement Unit
  | .ok b => .ok () b
  | .error e => .error e a

/-- A method that starts with a check is settled when its continuation is. -/
theorem run_check {α : Type} (x : Except ZeroConfError α) {f : α → Method} {a : AgentAnnouncement}
    {g : α → Except ZeroConfError AgentAnnouncement}
    (h : ∀ value, (f value).run a=settle a (g value)) :
    (check x >>= f).run a=settle a (x >>= g) := by
  cases x with
  | error e => rfl
  | ok value => exact h value

/-- A method that rejects reserved keys before it writes is settled. -/
theorem run_reserved (a : AgentAnnouncement) (key : String)
    (write : AgentMetadata → AgentMetadata) :
    ((do if isReservedMetadataKey key then
           throw (.reservedMetadataKey key)
         writeMetadata write : Method)).run a=
      settle a (do if isReservedMetadataKey key then
                     throw (.reservedMetadataKey key)
                   return { a with metadata := write a.metadata }) := by
  cases isReservedMetadataKey key <;> rfl

/-- Pushing a missing capability is settled. -/
theorem run_push (a : AgentAnnouncement) (capability : String) :
    ((do let a ← get
         if !a.capabilities.any fun entry => entry=capability then
           writeCapabilities fun capabilities => capabilities ++ [capability]
           writeCapabilities fun capabilities => capabilities.insertionSort (· ≤ ·)
           writeCapabilitiesMirror : Method)).run a=
      settle a (do if a.capabilities.any fun entry => entry=capability then
                     return a
                   let capabilities := (a.capabilities ++ [capability]).insertionSort (· ≤ ·)
                   return { a with capabilities
                                   metadata := syncCapabilitiesMetadata a.metadata capabilities })
      := by
  let listed := a.capabilities.any fun entry => entry=capability
  let push : Method := do
    writeCapabilities fun capabilities => capabilities ++ [capability]
    writeCapabilities fun capabilities => capabilities.insertionSort (· ≤ ·)
    writeCapabilitiesMirror
  show ((if !listed then push else pure ()) : Method).run a=
    settle a (if listed then .ok a else _)
  cases listed <;> rfl

/-- Every update method is the update, settled. -/
theorem run_updateMethod (call : LocalUpdate) (a : AgentAnnouncement) :
    (updateMethod call).run a=settle a (call.apply a) := by
  cases call with
  | status value => rfl
  | project value => exact run_check _ fun _ => rfl
  | branch value => exact run_check _ fun _ => rfl
  | metadata key value => exact run_check _ fun key => run_reserved a key _
  | removeMetadata key => exact run_check _ fun key => run_reserved a key _
  | capabilities values => exact run_check _ fun _ => rfl
  | addCapability value => exact run_check _ fun name => run_push a name
  | removeCapability value => exact run_check _ fun _ => rfl

/-- What a mutator returns. -/
def outcome (mac : Mac) (a : AgentAnnouncement) : Mutator → Except ZeroConfError AgentAnnouncement
  | .update call => call.apply a
  | .applySharedSecretAuth auth => .ok (AgentWire.applySharedSecretAuth mac a auth)

/-- Every method is its mutator, settled. -/
theorem run_mutatorMethod (mac : Mac) (mutator : Mutator) (a : AgentAnnouncement) :
    (mutatorMethod mac mutator).run a=settle a (outcome mac a mutator) := by
  cases mutator with
  | update call => exact run_updateMethod call a
  | applySharedSecretAuth auth => rfl

/-- A failing method leaves the announcement as it was. -/
theorem run_error {mac : Mac} {mutator : Mutator} {a b : AgentAnnouncement} {e : ZeroConfError}
    (h : (mutatorMethod mac mutator).run a=.error e b) : b=a := by
  rw [run_mutatorMethod] at h
  cases ho : outcome mac a mutator with
  | error e' =>
    rw [ho] at h
    cases h
    rfl
  | ok b' =>
    rw [ho] at h
    cases h

/-- A method that succeeds leaves what its mutator returns. -/
theorem outcome_of_succeeds {mac : Mac} {mutator : Mutator} {a : AgentAnnouncement}
    (h : (mutatorMethod mac mutator).succeeds a=true) :
    outcome mac a mutator=.ok ((mutatorMethod mac mutator).leaves a) := by
  rw [Method.succeeds,run_mutatorMethod] at h
  rw [Method.leaves,run_mutatorMethod]
  cases ho : outcome mac a mutator with
  | error e =>
    rw [ho] at h
    cases h
  | ok b => rfl

/-- A method that does not succeed leaves the announcement as it was. -/
theorem leaves_of_not_succeeds {mac : Mac} {mutator : Mutator} {a : AgentAnnouncement}
    (h : (mutatorMethod mac mutator).succeeds a=false) :
    (mutatorMethod mac mutator).leaves a=a := by
  rw [Method.succeeds,run_mutatorMethod] at h
  rw [Method.leaves,run_mutatorMethod]
  cases ho : outcome mac a mutator with
  | error e => rfl
  | ok b =>
    rw [ho] at h
    cases h

/-- A method leaves the announcement that the mutator gives. -/
theorem leaves_mutatorMethod (mac : Mac) (mutator : Mutator) (a : AgentAnnouncement) :
    (mutatorMethod mac mutator).leaves a=mutator.apply mac a := by
  rw [Method.leaves,run_mutatorMethod]
  cases mutator with
  | update call =>
    rw [outcome,Mutator.apply]
    cases call.apply a <;> rfl
  | applySharedSecretAuth auth => rfl

/-- The announcement after a sequence of method calls. -/
def callAll (mac : Mac) (a : AgentAnnouncement) (mutators : List Mutator) : AgentAnnouncement :=
  mutators.foldl (fun a mutator => (mutatorMethod mac mutator).leaves a) a

/-- Method calls change an announcement as the mutators do. -/
theorem callAll_eq_applyAll (mac : Mac) (a : AgentAnnouncement) (mutators : List Mutator) :
    callAll mac a mutators=applyAll mac a mutators := by
  have hstep : (fun a mutator => (mutatorMethod mac mutator).leaves a)=Mutator.apply mac := by
    funext a mutator
    exact leaves_mutatorMethod mac mutator a
  rw [callAll,applyAll,hstep]

end MeshPresence.AnnouncementMethods
