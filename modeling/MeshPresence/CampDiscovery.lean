import MeshPresence.MeshRuntime
import MeshPresence.MeshBuilder

/-!
# Observers of the command line

The query commands build a discovery-only node from their options or, when a config file is
named, from its discovery section alone. The node has shared-secret settings exactly when that
source supplies the shared secret itself: accepted secrets without it are dropped, and so is
everything that the other source supplies. Options that the observer does not read, the agent
section of the file and its timing are left out. Reading and decoding the file is a parameter.
-/

namespace MeshPresence.CampDiscovery

open TextOperations AgentTypes AgentConfig AgentWire MeshBuilder MeshRuntime

/-- Value of a digit in a radix of at most 36. -/
def digitValue (radix : ℕ) (c : Char) : Option ℕ :=
  let value :=
    if '0' ≤ c ∧ c ≤ '9' then some (c.toNat - '0'.toNat)
    else if 'a' ≤ c ∧ c ≤ 'z' then some (c.toNat - 'a'.toNat+10)
    else if 'A' ≤ c ∧ c ≤ 'Z' then some (c.toNat - 'A'.toNat+10)
    else none
  value.filter fun value => value<radix

/-- Why a decimal number is not a `u32`. -/
inductive ParseIntError where
  /-- Nothing to parse. -/
  | empty
  /-- Something is not a digit. -/
  | invalidDigit
  /-- The number is too large. -/
  | posOverflow
  deriving DecidableEq

/-- Message of the error. -/
def ParseIntError.message : ParseIntError → String
  | .empty => "cannot parse integer from empty string"
  | .invalidDigit => "invalid digit found in string"
  | .posOverflow => "number too large to fit in target type"

/-- Parse the digits of a `u32`, most significant first. -/
def parseDigits (digits : List Char) : Except ParseIntError UInt32 := do
  let number ← digits.foldlM (fun (number : ℕ) c =>
    match digitValue 10 c with
    | none => .error .invalidDigit
    | some digit => if number*10+digit<2^32 then .ok (number*10+digit) else .error .posOverflow) 0
  return number.toUInt32

/-- Parse a `u32`; a leading plus sign is allowed before digits. -/
def parseU32 (s : String) : Except ParseIntError UInt32 :=
  match s.toList with
  | [] => .error .empty
  | ['+'] => .error .invalidDigit
  | '+' :: digits => parseDigits digits
  | digits => parseDigits digits

/-- Read a number of at most `maxDigits` digits below a limit from the start of a text. -/
def readNumber (radix maxDigits limit : ℕ) (allowZeroPrefix : Bool) (input : List Char) :
    Option (ℕ × List Char) :=
  let digits := input.takeWhile fun c => (digitValue radix c).isSome
  let number := digits.foldl (fun number c => number*radix+(digitValue radix c).getD 0) 0
  if digits=[] ∨ digits.length>maxDigits then none
  else if !allowZeroPrefix ∧ digits.head?=some '0' ∧ digits.length>1 then none
  else if number<limit then some (number,input.drop digits.length)
  else none

/-- Read a separator, except before the first part, and then a part. -/
def readSeparator {α : Type} (separator : Char) (index : ℕ)
    (read : List Char → Option (α × List Char)) (input : List Char) : Option (α × List Char) :=
  if index=0 then read input
  else
    match input with
    | c :: rest => if c=separator then read rest else none
    | [] => none

/-- Read a version 4 address from the start of a text. -/
def readIpv4Addr (input : List Char) : Option (ℕ × List Char) :=
  (List.range 4).foldlM (fun (state : ℕ × List Char) i => do
    let (octet,rest) ← readSeparator '.' i (readNumber 10 3 256 false) state.2
    return (state.1*256+octet,rest)) (0,input)

/-- Read up to `left` groups of a version 6 address, the last two possibly as a version 4
address, and report whether they were. -/
def readGroups : ℕ → ℕ → List Char → List ℕ × Bool × List Char
  | 0, _, input => ([],false,input)
  | left+1, i, input =>
    match if 0<left then readSeparator ':' i readIpv4Addr input else none with
    | some (bits,rest) => ([bits/2^16,bits%2^16],true,rest)
    | none =>
      match readSeparator ':' i (readNumber 16 4 65536 true) input with
      | some (group,rest) =>
        let (groups,embedded,rest) := readGroups left (i+1) rest
        (group :: groups,embedded,rest)
      | none => ([],false,input)

/-- Read a version 6 address from the start of a text. -/
def readIpv6Addr (input : List Char) : Option (ℕ × List Char) :=
  let combine := fun (groups : List ℕ) => groups.foldl (fun bits group => bits*65536+group) 0
  let (head,embedded,rest) := readGroups 8 0 input
  if head.length=8 then some (combine head,rest)
  else if embedded then none
  else
    match rest with
    | ':' :: ':' :: rest =>
      let (tail,_,rest) := readGroups (8-(head.length+1)) 0 rest
      some (combine (head ++ List.replicate (8-head.length-tail.length) 0 ++ tail),rest)
    | _ => none

/-- Parse an address that takes up a whole text. -/
def parseIpAddr (s : String) : Option IpAddr :=
  let read := match readIpv4Addr s.toList with
    | some (bits,rest) => some (IpAddr.v4 (BitVec.ofNat 32 bits),rest)
    | none => (readIpv6Addr s.toList).map fun (bits,rest) => (IpAddr.v6 (BitVec.ofNat 128 bits),rest)
  match read with
  | some (addr,[]) => some addr
  | _ => none

/-- Leading zeros, the zero run, embedded version 4 addresses and trailing text. -/
example : ["127.0.0.1","127.0.0.01","::","fd00::2","::ffff:10.0.0.2","1:2:3:4:5:6:7:8","1::2::3",
    "1.2.3.4x"].map parseIpAddr=
      [some (.v4 0x7f000001#32),none,some (.v6 0#128),
       some (.v6 0xfd000000000000000000000000000002#128),some (.v6 0xffff0a000002#128),
       some (.v6 0x00010002000300040005000600070008#128),none,none] := by
  decide +kernel

/-- Parse an interface selector. -/
def parseNetworkInterface (value : String) : Except String NetworkInterface :=
  if value="all" then .ok .all
  else if value="ipv4" then .ok .ipv4
  else if value="ipv6" then .ok .ipv6
  else if value="loopback-v4" then .ok .loopbackV4
  else if value="loopback-v6" then .ok .loopbackV6
  else
    match split ':' value with
    | kind :: part :: parts =>
      let raw := join ":" (part :: parts)
      if kind="name" then .ok (.name raw)
      else if kind="addr" then
        (parseIpAddr raw).elim (.error "invalid IP address syntax") fun addr => .ok (.addr addr)
      else if kind="index-v4" then (parseU32 raw).mapError ParseIntError.message >>= fun index =>
        .ok (.indexV4 index)
      else if kind="index-v6" then (parseU32 raw).mapError ParseIntError.message >>= fun index =>
        .ok (.indexV6 index)
      else .error "unknown interface selector"
    | _ => .ok (.name value)

/-- Shared-secret mode as an option or in a config file. -/
inductive SharedSecretModeArg where
  /-- `sign-only`. -/
  | signOnly
  /-- `sign-and-verify`, the default. -/
  | signAndVerify
  deriving DecidableEq

/-- The mode of the library. -/
def SharedSecretModeArg.toMode : SharedSecretModeArg → SharedSecretMode
  | .signOnly => .signOnly
  | .signAndVerify => .signAndVerify

/-- Options of the query commands. -/
structure DiscoveryOptions where
  /-- Path of a config file. -/
  config : Option String := none
  /-- Service type to browse. -/
  serviceType : String := "_agent-mesh._tcp.local."
  /-- UDP port of the mDNS daemon. -/
  mdnsPort : UInt16 := 5353
  /-- Shared secret. -/
  sharedSecret : Option String := none
  /-- Further accepted secrets. -/
  sharedSecretAccept : List String := []
  /-- Shared-secret mode. -/
  sharedSecretMode : SharedSecretModeArg := .signAndVerify
  /-- Selectors of included interfaces. -/
  enableInterface : List String := []
  /-- Selectors of excluded interfaces. -/
  disableInterface : List String := []
  deriving DecidableEq

/-- Discovery section of a config file. -/
structure CampDiscoveryConfig where
  /-- Service type to browse. -/
  serviceType : String
  /-- UDP port of the mDNS daemon. -/
  mdnsPort : UInt16
  /-- Shared secret. -/
  sharedSecret : Option String := none
  /-- Further accepted secrets. -/
  sharedSecretAccept : List String := []
  /-- Shared-secret mode. -/
  sharedSecretMode : SharedSecretModeArg := .signAndVerify
  /-- Selectors of included interfaces. -/
  enableInterface : List String := []
  /-- Selectors of excluded interfaces. -/
  disableInterface : List String := []
  deriving DecidableEq

/-- A config file. -/
structure CampConfigFile where
  /-- Discovery section. -/
  discovery : CampDiscoveryConfig
  deriving DecidableEq

/-- Options after the choice of their source. -/
structure ResolvedDiscoveryOptions where
  /-- Service type to browse. -/
  serviceType : String
  /-- UDP port of the mDNS daemon. -/
  mdnsPort : UInt16
  /-- Shared secret. -/
  sharedSecret : Option String
  /-- Further accepted secrets. -/
  sharedSecretAccept : List String
  /-- Shared-secret mode. -/
  sharedSecretMode : SharedSecretMode
  /-- Selectors of included interfaces. -/
  enableInterface : List String
  /-- Selectors of excluded interfaces. -/
  disableInterface : List String
  deriving DecidableEq

/-- Errors of the command line. -/
inductive CampError where
  /-- The config file cannot be read or decoded. -/
  | config (message : String)
  /-- An interface selector does not parse. -/
  | interface (message : String)
  /-- The mesh cannot be built. -/
  | mesh (error : ZeroConfError)
  deriving DecidableEq

/-- How a config file of a path is read. -/
abbrev ReadCampConfig := String → Except CampError CampConfigFile

/-- Choose the config file when one is named, and the options otherwise. -/
def resolveDiscoveryOptions (readCampConfig : ReadCampConfig) (options : DiscoveryOptions) :
    Except CampError ResolvedDiscoveryOptions :=
  match options.config with
  | some path => do
    let config ← readCampConfig path
    return { serviceType := config.discovery.serviceType
             mdnsPort := config.discovery.mdnsPort
             sharedSecret := config.discovery.sharedSecret
             sharedSecretAccept := config.discovery.sharedSecretAccept
             sharedSecretMode := config.discovery.sharedSecretMode.toMode
             enableInterface := config.discovery.enableInterface
             disableInterface := config.discovery.disableInterface }
  | none =>
    return { serviceType := options.serviceType
             mdnsPort := options.mdnsPort
             sharedSecret := options.sharedSecret
             sharedSecretAccept := options.sharedSecretAccept
             sharedSecretMode := options.sharedSecretMode.toMode
             enableInterface := options.enableInterface
             disableInterface := options.disableInterface }

/-- Hand the secrets to the builder; without a shared secret there are none. -/
def applySharedSecret (builder : ZeroConfMeshBuilder) (sharedSecret : Option String)
    (sharedSecretAccept : List String) (mode : SharedSecretMode) : ZeroConfMeshBuilder :=
  match sharedSecret with
  | some secret =>
    if sharedSecretAccept.isEmpty then sharedSecretWithMode builder secret mode
    else sharedSecretRotationWithMode builder secret sharedSecretAccept mode
  | none => builder

/-- Add the rule of an interface selector to the builder. -/
def applyInterface (add : ZeroConfMeshBuilder → NetworkInterface → ZeroConfMeshBuilder)
    (builder : ZeroConfMeshBuilder) (selector : String) : Except CampError ZeroConfMeshBuilder := do
  let interface ← (parseNetworkInterface selector).mapError .interface
  return add builder interface

/-- Add the interface rules to the builder. -/
def applyInterfaces (builder : ZeroConfMeshBuilder) (enabled disabled : List String) :
    Except CampError ZeroConfMeshBuilder := do
  let builder ← enabled.foldlM (applyInterface MeshBuilder.enableInterface) builder
  disabled.foldlM (applyInterface MeshBuilder.disableInterface) builder

/-- The builder of an observer before secrets and interface rules. -/
def observerBuilder (observerId : String) (port : UInt16) (resolved : ResolvedDiscoveryOptions) :
    ZeroConfMeshBuilder :=
  discoverOnly
    { agentId := some ("camp-observer-" ++ observerId)
      role := "observer"
      project := "observer"
      branch := "watch"
      port := some port
      mdnsPort := resolved.mdnsPort
      serviceType := resolved.serviceType
      heartbeatInterval := 200000000
      ttl := 2000000000 }

/-- Build an observer with a generated identifier and a free port, up to the first step of its
start-up. -/
def buildObserver (mac : Mac) (readCampConfig : ReadCampConfig) (observerId : String)
    (port : UInt16) (options : DiscoveryOptions) : Except CampError Mesh := do
  let resolved ← resolveDiscoveryOptions readCampConfig options
  let builder := applySharedSecret (observerBuilder observerId port resolved) resolved.sharedSecret
    resolved.sharedSecretAccept resolved.sharedSecretMode
  let builder ← applyInterfaces builder resolved.enableInterface resolved.disableInterface
  let config ← (buildConfig "" builder).mapError .mesh
  (Mesh.init mac config).mapError .mesh

end MeshPresence.CampDiscovery
