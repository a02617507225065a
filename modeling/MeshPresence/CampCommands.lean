import MeshPresence.AgentSlugs
import MeshPresence.AgentsGuidance
import MeshPresence.BuilderCalls
import MeshPresence.CampConfigFiles
import MeshPresence.FilePaths
import MeshPresence.NodeFamilies
import MeshPresence.VerifiedObservers

/-!
# Initializing and starting an agent from the command line

`camp init` writes a config file from its options, from what it finds on the machine and from
defaults, and puts its guidance into another file. `camp up` announces what the config file
says, `camp announce` what its options say, and the query commands can read the config file too.
After `camp init`, the config file stands for its options: each of these commands builds the same
node with the file as with the options, or fails with the same error. The guidance has to go into
another file, and the config file has to be parsed as it was printed.
-/

namespace MeshPresence.CampCommands

open TextOperations FiniteMaps FallibleSteps NodeFamilies AgentTypes AgentConfig AgentWire
open MeshBuilder MeshRuntime FilePaths AgentsGuidance CampConfigFiles
open AgentSlugs (slugify stateFile tryCommandStdout inferDefaultAgentId)
open CampDiscovery (SharedSecretModeArg DiscoveryOptions ResolvedDiscoveryOptions CampError
  ReadCampConfig resolveDiscoveryOptions applySharedSecret applyInterface applyInterfaces
  buildObserver)

section Guidance

/-- The guidance for a config file. -/
def renderAgentsGuidance (configPath : String) (config : CampConfigFile) : String :=
  let project := config.agent.project
  "<!-- CAMP:START -->\n## camp agent workflow\n\n" ++
  "This repository is configured to use `camp` for local LAN agent discovery.\n\n" ++
  "If `" ++ configPath ++ "` is missing on this machine, run `camp init --force` before using " ++
  "the commands below.\n\nRecommended commands for AI agents in this repo:\n" ++
  "- bring this repo's agent online: `camp up`\n" ++
  "- list peers for this project: `camp who --config " ++ configPath ++ " --project " ++ project ++
  "`\n- find a reviewer quickly: `camp who --config " ++ configPath ++ " --project " ++ project ++
  " --role reviewer`\n- mirror live mesh state to a file: `camp watch --config " ++ configPath ++
  " --write-state " ++ stateFile project ++
  "`\n- start the local HTTP + SSE bridge: `camp serve --config " ++ configPath ++
  " --bind 127.0.0.1:9999`\n\nThe generated config already includes this repo's defaults for " ++
  "project, branch, ports, and discovery settings.\nPrefer reusing a single long-running " ++
  "`camp up` process instead of starting multiple announcers for the same machine.\n" ++
  "<!-- CAMP:END -->\n"

/-- Put the guidance into a file. -/
def upsertAgentsGuidance {ℓ : Type} [DecidableEq ℓ] (fs : FileSystem ℓ) (path configPath : String)
    (config : CampConfigFile) : Except InitError (FileSystem ℓ) := do
  fs.createParent (components path)
  let existing := (fs.readToString (components path)).toOption
  let guidance := renderAgentsGuidance configPath config
  fs.write (components path) (AgentsGuidance.upsertAgentsGuidance existing guidance.toList)

end Guidance

section Init

/-- What the machine says about itself and the current directory. -/
structure Environment extends AgentSlugs.Environment where
  /-- Name of the current directory, if it has one. -/
  directoryName : Option String
  /-- Output of `git branch --show-current`, when it succeeds. -/
  branchStdout : Option String

/-- Options of `camp init`. -/
structure InitCommand where
  /-- Path of the config file. -/
  config : String := ".camp.toml"
  /-- Path of the file that gets the guidance. -/
  agentsFile : String := "AGENTS.md"
  /-- Overwrite an existing config file. -/
  force : Bool := false
  /-- Identifier. -/
  id : Option String := none
  /-- Role. -/
  role : Option String := none
  /-- Project. -/
  project : Option String := none
  /-- Branch. -/
  branch : Option String := none
  /-- Advertised port. -/
  port : Option UInt16 := none
  /-- First status. -/
  status : AgentStatus := .idle
  /-- Capabilities. -/
  capabilities : List String := []
  /-- Metadata entries in their order. -/
  metadata : List (String × String) := []
  /-- Service type. -/
  serviceType : String := "_agent-mesh._tcp.local."
  /-- UDP port of the mDNS daemon. -/
  mdnsPort : UInt16 := 5353
  /-- Milliseconds between heartbeats. -/
  heartbeatMs : UInt64 := 30000
  /-- Milliseconds that a record lives. -/
  ttlMs : UInt64 := 120000
  /-- Shared secret. -/
  sharedSecret : Option String := none
  /-- Further accepted secrets. -/
  sharedSecretAccept : List String := []
  /-- Shared-secret mode. -/
  sharedSecretMode : SharedSecretModeArg := .signAndVerify
  /-- Selectors of included interfaces. -/
  enableInterface : List String := []
  /-- Selectors of excluded interfaces. -/
  disableInterface : List String := []
  deriving DecidableEq

variable {ℓ : Type} (codec : TomlCodec) (env : Environment) (fs : FileSystem ℓ)

/-- Name of the package in the current directory. -/
def readLocalPackageName : Option String := do
  let manifest ← (fs.readToString (components "Cargo.toml")).toOption
  (codec.packageName manifest).filter fun name => trim name ≠ ""

/-- The project of the current directory. -/
def inferDefaultProject : String :=
  match readLocalPackageName codec fs with
  | some packageName => packageName
  | none => (env.directoryName.filter fun name => trim name ≠ "").getD "default"

/-- The branch of the current directory. -/
def inferDefaultBranch : String :=
  ((tryCommandStdout env.branchStdout).filter fun value => value ≠ "").getD "main"

end Init

section Announce

/-- Options of `camp announce`. -/
structure AnnounceCommand where
  /-- Identifier. -/
  id : String
  /-- Role. -/
  role : String := "agent"
  /-- Project. -/
  project : String := "default"
  /-- Branch. -/
  branch : String := "unknown"
  /-- Advertised port. -/
  port : UInt16
  /-- First status. -/
  status : AgentStatus := .idle
  /-- Capabilities. -/
  capabilities : List String := []
  /-- Metadata entries in their order. -/
  metadata : List (String × String) := []
  /-- Service type. -/
  serviceType : String := "_agent-mesh._tcp.local."
  /-- UDP port of the mDNS daemon. -/
  mdnsPort : UInt16 := 5353
  /-- Milliseconds between heartbeats. -/
  heartbeatMs : UInt64 := 30000
  /-- Milliseconds that a record lives. -/
  ttlMs : UInt64 := 120000
  /-- Shared secret. -/
  sharedSecret : Option String := none
  /-- Further accepted secrets. -/
  sharedSecretAccept : List String := []
  /-- Shared-secret mode. -/
  sharedSecretMode : SharedSecretModeArg := .signAndVerify
  /-- Selectors of included interfaces. -/
  enableInterface : List String := []
  /-- Selectors of excluded interfaces. -/
  disableInterface : List String := []
  deriving DecidableEq

/-- What a node is announced from. -/
structure AnnounceSettings where
  /-- Identifier. -/
  id : String
  /-- Role. -/
  role : String
  /-- Project. -/
  project : String
  /-- Branch. -/
  branch : String
  /-- Advertised port. -/
  port : UInt16
  /-- First status. -/
  status : AgentStatus
  /-- Capabilities. -/
  capabilities : List String
  /-- Metadata entries in their order. -/
  metadata : List (String × String)
  /-- Service type. -/
  serviceType : String
  /-- UDP port of the mDNS daemon. -/
  mdnsPort : UInt16
  /-- Milliseconds between heartbeats. -/
  heartbeatMs : UInt64
  /-- Milliseconds that a record lives. -/
  ttlMs : UInt64
  /-- Shared secret. -/
  sharedSecret : Option String
  /-- Further accepted secrets. -/
  sharedSecretAccept : List String
  /-- Shared-secret mode. -/
  sharedSecretMode : SharedSecretMode
  /-- Selectors of included interfaces. -/
  enableInterface : List String
  /-- Selectors of excluded interfaces. -/
  disableInterface : List String
  deriving DecidableEq

/-- Settings of a config file. -/
def AnnounceSettings.ofFile (value : CampConfigFile) : AnnounceSettings where
  id := value.agent.id
  role := value.agent.role
  project := value.agent.project
  branch := value.agent.branch
  port := value.agent.port
  status := value.agent.status
  capabilities := value.agent.capabilities
  metadata := value.agent.metadata.toList
  serviceType := value.discovery.serviceType
  mdnsPort := value.discovery.mdnsPort
  heartbeatMs := value.discovery.heartbeatMs
  ttlMs := value.discovery.ttlMs
  sharedSecret := value.discovery.sharedSecret
  sharedSecretAccept := value.discovery.sharedSecretAccept
  sharedSecretMode := value.discovery.sharedSecretMode.toMode
  enableInterface := value.discovery.enableInterface
  disableInterface := value.discovery.disableInterface

/-- A number of milliseconds. -/
def fromMillis (millis : UInt64) : Duration := millis.toNat*1000000

/-- Add the metadata entries in their order. -/
def applyMetadata (builder : ZeroConfMeshBuilder) (metadata : List (String × String)) :
    ZeroConfMeshBuilder :=
  metadata.foldl (fun builder entry => BuilderCalls.metadata builder entry.1 entry.2) builder

/-- The builder of an announcer before metadata, secrets and interface rules. -/
def announcerBuilder (settings : AnnounceSettings) : ZeroConfMeshBuilder :=
  let builder := BuilderCalls.agentId {} settings.id
  let builder := BuilderCalls.role builder settings.role
  let builder := BuilderCalls.project builder settings.project
  let builder := BuilderCalls.branch builder settings.branch
  let builder := BuilderCalls.port builder settings.port
  let builder := BuilderCalls.mdnsPort builder settings.mdnsPort
  let builder := BuilderCalls.serviceType builder settings.serviceType
  let builder := BuilderCalls.status builder settings.status
  let builder := BuilderCalls.heartbeatInterval builder (fromMillis settings.heartbeatMs)
  let builder := BuilderCalls.ttl builder (fromMillis settings.ttlMs)
  BuilderCalls.capabilities builder settings.capabilities

/-- Build an announcer, up to the first step of its start-up. -/
def runAnnounceWithSettings (mac : Mac) (settings : AnnounceSettings) : Except CampError Mesh := do
  let builder := applyMetadata (announcerBuilder settings) settings.metadata
  let builder := applySharedSecret builder settings.sharedSecret settings.sharedSecretAccept
    settings.sharedSecretMode
  let builder ← applyInterfaces builder settings.enableInterface settings.disableInterface
  let config ← (buildConfig "" builder).mapError .mesh
  (Mesh.init mac config).mapError .mesh

/-- Announce what a config file says. -/
def runUp {ℓ : Type} (mac : Mac) (codec : TomlCodec) (fs : FileSystem ℓ) (config : String) :
    Except CampError Mesh := do
  let config ← readCampConfig codec fs config
  runAnnounceWithSettings mac (.ofFile config)

/-- How an observer reads config files. -/
def observedConfig {ℓ : Type} (codec : TomlCodec) (fs : FileSystem ℓ) : ReadCampConfig :=
  fun path => (readCampConfig codec fs path).map CampConfigFile.observed

end Announce

section Metadata

/-- Entries end up in the map in their order. -/
theorem applyMetadata_eq (builder : ZeroConfMeshBuilder) (metadata : List (String × String)) :
    applyMetadata builder metadata=
      { builder with metadata := builder.metadata.insertMany metadata } := by
  induction metadata generalizing builder with
  | nil =>
    rw [Std.ExtTreeMap.insertMany_nil]
    rfl
  | cons entry metadata ih =>
    rw [Std.ExtTreeMap.insertMany_cons,applyMetadata,List.foldl_cons]
    exact ih _

end Metadata

section Equivalence

variable {ℓ : Type}

/-- Options of `camp announce` that say what `camp init` puts into the config file. -/
def InitCommand.announced (codec : TomlCodec) (env : Environment) (fs : FileSystem ℓ)
    (command : InitCommand) : AnnounceCommand :=
  let project := command.project.getD (inferDefaultProject codec env fs)
  let branch := command.branch.getD (inferDefaultBranch env)
  { id := command.id.getD (inferDefaultAgentId env.toEnvironment project branch)
    role := command.role.getD "agent"
    project, branch
    port := command.port.getD 7000
    status := command.status
    capabilities := command.capabilities
    metadata := command.metadata
    serviceType := command.serviceType
    mdnsPort := command.mdnsPort
    heartbeatMs := command.heartbeatMs
    ttlMs := command.ttlMs
    sharedSecret := command.sharedSecret
    sharedSecretAccept := command.sharedSecretAccept
    sharedSecretMode := command.sharedSecretMode
    enableInterface := command.enableInterface
    disableInterface := command.disableInterface }

/-- Options of the query commands that say what `camp init` puts into the config file. -/
def InitCommand.observed (command : InitCommand) : DiscoveryOptions where
  serviceType := command.serviceType
  mdnsPort := command.mdnsPort
  sharedSecret := command.sharedSecret
  sharedSecretAccept := command.sharedSecretAccept
  sharedSecretMode := command.sharedSecretMode
  enableInterface := command.enableInterface
  disableInterface := command.disableInterface

end Equivalence

/-- A directory with only a guidance file. -/
def sampleFiles : FileSystem (List String) where
  locate := locateIn ["mesh"]
  entries := place (fun _ => none) ["mesh","AGENTS.md"] (some (.text "# Notes\n".toList))
  createError := fun _ => none
  writeError := fun _ => none

/-- The config file for the options. -/
def sampleConfig : CampConfigFile where
  agent :=
    { id := "camp-ana-host-local-mesh-feature-x", role := "agent", project := "mesh"
      branch := "feature/x", port := 7000, status := .idle
      metadata := Std.ExtTreeMap.ofList [("team","core"),("region","eu"),("team","infra")] }
  discovery :=
    { serviceType := "_agent-mesh._tcp.local.", mdnsPort := 5353, heartbeatMs := 30000
      ttlMs := 120000, sharedSecret := some "mesh-secret" }

/-- Its text. -/
def sampleText : List Char :=
  ("[agent]\nid = \"camp-ana-host-local-mesh-feature-x\"\nrole = \"agent\"\nproject = \"mesh\"\n" ++
    "branch = \"feature/x\"\nport = 7000\nstatus = \"idle\"\n\n[agent.metadata]\nregion = \"eu\"\n" ++
    "team = \"infra\"\n\n[discovery]\nservice_type = \"_agent-mesh._tcp.local.\"\n" ++
    "mdns_port = 5353\nheartbeat_ms = 30000\nttl_ms = 120000\nshared_secret = \"mesh-secret\"\n" ++
    "shared_secret_mode = \"sign-and-verify\"\n").toList

/-- Printing and parsing as far as this config file goes. -/
def sampleCodec : TomlCodec where
  toStringPretty := fun config =>
    if config=sampleConfig then .ok sampleText else .error "unsupported value"
  fromStr := fun text =>
    if text=sampleText ++ ['\n'] then .ok sampleConfig else .error "TOML parse error"
  packageName := fun _ => none

/-- The config file is parsed as it was printed. -/
theorem readsBack_sampleConfig : sampleCodec.ReadsBack sampleConfig := by
  intro text htext
  simp only [sampleCodec,if_true] at htext
  rw [←Except.ok.inj htext]
  simp only [sampleCodec,if_true]

end MeshPresence.CampCommands
