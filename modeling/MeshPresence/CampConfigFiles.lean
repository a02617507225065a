import MeshPresence.CampDiscovery
import MeshPresence.FilePaths
import MeshPresence.NodeFamilies

/-!
# The config file of the command line

A config file is printed into a file and parsed from one. Files are contents at places, paths
lead to places, and several paths can lead to one. How a config file is printed and parsed is a
parameter, and what a read needs of it is that the text at hand is parsed as it was printed. Then
a config file that was written and not changed since is read back.
-/

namespace MeshPresence.CampConfigFiles

open FallibleSteps NodeFamilies AgentTypes FilePaths
open CampDiscovery (CampError)

/-- The agent section of a config file. -/
structure CampAgentConfig where
  /-- Identifier of the agent. -/
  id : String
  /-- Its role. -/
  role : String
  /-- Its project. -/
  project : String
  /-- Its branch. -/
  branch : String
  /-- The advertised port. -/
  port : UInt16
  /-- Its first status. -/
  status : AgentStatus
  /-- Its capabilities. -/
  capabilities : List String := []
  /-- Its further metadata. -/
  metadata : AgentMetadata := ∅
  deriving DecidableEq

/-- The discovery section of a config file, with what only announcers read. -/
structure CampDiscoveryConfig extends CampDiscovery.CampDiscoveryConfig where
  /-- Milliseconds between heartbeats. -/
  heartbeatMs : UInt64
  /-- Milliseconds that a record lives. -/
  ttlMs : UInt64
  deriving DecidableEq

/-- A config file. -/
structure CampConfigFile where
  /-- The agent section. -/
  agent : CampAgentConfig
  /-- The discovery section. -/
  discovery : CampDiscoveryConfig
  deriving DecidableEq

/-- What an observer reads of a config file. -/
def CampConfigFile.observed (file : CampConfigFile) : CampDiscovery.CampConfigFile :=
  { discovery := file.discovery.toCampDiscoveryConfig }

section Files

/-- A file that is there. -/
inductive FileEntry where
  /-- It is no text that can be read. -/
  | unreadable (message : String)
  /-- Its contents. -/
  | text (contents : List Char)
  deriving DecidableEq

/-- The files and how writing them goes. -/
structure FileSystem (ℓ : Type) where
  /-- The place that a path leads to. -/
  locate : Path → ℓ
  /-- What is there at a place. -/
  entries : ℓ → Option FileEntry
  /-- Why a directory cannot be created, if so. -/
  createError : Path → Option String
  /-- Why a file cannot be written, if so. -/
  writeError : Path → Option String

/-- Why a command fails before it builds a node. -/
inductive InitError where
  /-- The config file exists and is not to be overwritten. -/
  | exists (display : String)
  /-- A file cannot be written. -/
  | file (message : String)
  /-- The config cannot be printed. -/
  | toml (message : String)
  deriving DecidableEq

/-- The reported text. -/
def InitError.message : InitError → String
  | .exists display =>
    "camp config already exists at " ++ display ++ "; rerun with --force to overwrite"
  | .file message => message
  | .toml message => message

variable {ℓ : Type}

/-- What is there under a path. -/
def FileSystem.get (fs : FileSystem ℓ) (path : Path) : Option FileEntry :=
  fs.entries (fs.locate path)

/-- Read a text. -/
def FileSystem.readToString (fs : FileSystem ℓ) (path : Path) : Except String (List Char) :=
  match fs.get path with
  | none => .error "No such file or directory (os error 2)"
  | some (.unreadable message) => .error message
  | some (.text contents) => .ok contents

/-- Create the directory of a path. -/
def FileSystem.createParent (fs : FileSystem ℓ) (path : Path) : Except InitError Unit :=
  match (parent path).filter fun parent => parent ≠ [] with
  | none => .ok ()
  | some directory => (fs.createError directory).elim (.ok ()) fun message => .error (.file message)

/-- Write a text. -/
def FileSystem.write [DecidableEq ℓ] (fs : FileSystem ℓ) (path : Path) (contents : List Char) :
    Except InitError (FileSystem ℓ) :=
  match fs.writeError path with
  | none => .ok { fs with entries := place fs.entries (fs.locate path) (some (.text contents)) }
  | some message => .error (.file message)

end Files

section Codec

/-- Printing and parsing of documents. -/
structure TomlCodec where
  /-- The text of a config file, or why it cannot be printed. -/
  toStringPretty : CampConfigFile → Except String (List Char)
  /-- The config file of a text, or why it has none. -/
  fromStr : List Char → Except String CampConfigFile
  /-- The name of the package of a manifest, if it has one. -/
  packageName : List Char → Option String

/-- The text of a config file, with a line end behind it, is parsed as it was printed. -/
def TomlCodec.ReadsBack (codec : TomlCodec) (config : CampConfigFile) : Prop :=
  ∀ text, codec.toStringPretty config=.ok text → codec.fromStr (text ++ ['\n'])=.ok config

variable {ℓ : Type} (codec : TomlCodec)

/-- Read a config file. -/
def readCampConfig (fs : FileSystem ℓ) (path : String) : Except CampError CampConfigFile := do
  let contents ← (fs.readToString (components path)).mapError .config
  (codec.fromStr contents).mapError .config

variable {codec}

/-- A config file that is there as it was printed is read back. -/
theorem readCampConfig_printed {fs : FileSystem ℓ} {display : String} {config : CampConfigFile}
    {text : List Char} (hprinted : codec.toStringPretty config=.ok text)
    (hentry : fs.get (components display)=some (.text (text ++ ['\n'])))
    (hparse : codec.ReadsBack config) : readCampConfig codec fs display=.ok config := by
  simp only [readCampConfig,FileSystem.readToString,hentry,Except.mapError,ok_bind,
    hparse text hprinted]

end Codec

end MeshPresence.CampConfigFiles
