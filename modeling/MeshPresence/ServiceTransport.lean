import MeshPresence.KeyShadowing
import MeshPresence.ServiceTypes

/-!
# The transport of services

A node hands its service to a daemon, and other nodes are told what the daemons and the wire
between them make of it. That part is not of this program: the transport is a parameter, and
what is relied on are its documented laws about services that conform. Names that need no
escaping and that no other host claims are joined by a dot, the port arrives, and properties that
fit into a TXT record arrive in order, of keys that agree up to ASCII case the first one. Nothing
is known of other services: they may be renamed, their names escaped and their properties cut off.
-/

namespace MeshPresence.ServiceTransport

open AgentTypes AgentConfig AgentWire ValidatedConfig KeyShadowing ServiceTypes

/-- Descriptor of a service that is handed to the daemon. Addresses are added by the daemon. -/
structure ServiceInfo where
  /-- Service type. -/
  serviceType : String
  /-- Instance label, in front of the service type. -/
  instanceName : String
  /-- Host name. -/
  hostName : String
  /-- Known addresses. -/
  addresses : List IpAddr
  /-- Service port. -/
  port : UInt16
  /-- TXT properties. -/
  properties : TxtProperties

/-- The descriptor of an announcement. -/
def toServiceInfo (a : AgentAnnouncement) (serviceType hostName : String) : ServiceInfo where
  serviceType := serviceType
  instanceName := a.agentId
  hostName := hostName
  addresses := a.addresses
  port := a.port
  properties := toTxtProperties a

/-- What becomes of a registered service until it is resolved. -/
structure Transport where
  /-- Full name. -/
  fullname : ServiceInfo → String
  /-- Port. -/
  port : ServiceInfo → UInt16
  /-- Properties. -/
  properties : ServiceInfo → TxtProperties
  /-- No other host claims the name, so that it is not changed to another one. -/
  Unclaimed : ServiceInfo → Prop

/-- A registered service as it is resolved at a peer. -/
def ServiceInfo.resolved (transport : Transport) (service : ServiceInfo)
    (addresses : List IpAddr) : ResolvedService where
  fullname := transport.fullname service
  port := transport.port service
  addresses := addresses
  properties := transport.properties service

/-- A name of the wire: at most 63 bytes, none of which has to be escaped. -/
def PlainText (text : String) : Prop :=
  text ≠ "" ∧ '\\' ∉ text.toList ∧ text.utf8ByteSize ≤ 63

instance (text : String) : Decidable (PlainText text) :=
  inferInstanceAs (Decidable (text ≠ "" ∧ '\\' ∉ text.toList ∧ text.utf8ByteSize ≤ 63))

/-- Bytes of a property on the wire, behind its length byte. -/
def TxtProperty.size (property : TxtProperty) : ℕ :=
  property.key.utf8ByteSize + property.val.elim 0 fun value => 1 + value.size

/-- A key is made of printable ASCII without `=`. -/
def printableKey (key : String) : Bool :=
  key ≠ "" && key.toList.all fun c => ' ' ≤ c ∧ c ≤ '~' ∧ c ≠ '='

/-- The key is printable, and the property fits into one string. -/
def PropertyFits (property : TxtProperty) : Prop :=
  printableKey property.key=true ∧ TxtProperty.size property ≤ 255

instance (property : TxtProperty) : Decidable (PropertyFits property) :=
  inferInstanceAs (Decidable (printableKey property.key=true ∧ TxtProperty.size property ≤ 255))

/-- Bytes of the record of properties. -/
def recordSize (properties : TxtProperties) : ℕ :=
  properties.foldl (fun size property => size + 1 + TxtProperty.size property) 0

/-- All properties fit, and together they take no more than the recommended 1300 bytes. -/
def Fits (properties : TxtProperties) : Prop :=
  (∀ property ∈ properties, PropertyFits property) ∧ recordSize properties ≤ 1300

instance (properties : TxtProperties) : Decidable (Fits properties) :=
  inferInstanceAs (Decidable ((∀ property ∈ properties, PropertyFits property) ∧
    recordSize properties ≤ 1300))

/-- The label and the service type are joined to the full name as they are. -/
structure PlainName (service : ServiceInfo) : Prop where
  /-- The label. -/
  label : PlainText service.instanceName
  /-- It is one label. -/
  dotless : '.' ∉ service.instanceName.toList
  /-- The service type. -/
  serviceType : PlainText service.serviceType
  /-- It has the documented pattern. -/
  pattern : ServiceTypePattern service.serviceType

/-- The laws say how the service arrives. -/
structure Conforms (transport : Transport) (service : ServiceInfo) : Prop where
  /-- Its name is plain. -/
  name : PlainName service
  /-- Nobody else has it. -/
  unclaimed : transport.Unclaimed service
  /-- Its properties fit. -/
  properties : Fits service.properties

/-- The documented laws of a transport. -/
structure Transport.Lawful (transport : Transport) : Prop where
  /-- A plain name that is unclaimed is the full name. -/
  fullname : ∀ service, PlainName service → transport.Unclaimed service →
    transport.fullname service=service.instanceName ++ "." ++ service.serviceType
  /-- The port arrives. -/
  port : ∀ service, transport.port service=service.port
  /-- What fits arrives, of keys that agree up to ASCII case the first one. -/
  properties : ∀ service, Fits service.properties →
    transport.properties service=transported service.properties

/-- A service arrives with its port and its properties. -/
structure Arrives (transport : Transport) (service : ServiceInfo) : Prop where
  /-- The port. -/
  port : transport.port service=service.port
  /-- The properties. -/
  properties : transport.properties service=transported service.properties

/-- What fits arrives. -/
theorem Transport.Lawful.arrives {transport : Transport} (h : transport.Lawful)
    {service : ServiceInfo} (hfits : Fits service.properties) : Arrives transport service :=
  ⟨h.port service,h.properties service hfits⟩

/-- A transport that renames, escapes and cuts off nothing. -/
def plainTransport : Transport where
  fullname := fun service => service.instanceName ++ "." ++ service.serviceType
  port := ServiceInfo.port
  properties := fun service => transported service.properties
  Unclaimed := fun _ => True

/-- Everything arrives over it. -/
theorem arrives_plainTransport (service : ServiceInfo) : Arrives plainTransport service := ⟨rfl,rfl⟩

/-- It is lawful. -/
theorem plainTransport_lawful : plainTransport.Lawful :=
  ⟨fun _ _ _ => rfl,fun _ => rfl,fun _ _ => rfl⟩

/-- A service that arrives is decoded as the announcement is received under its full name. -/
theorem fromResolvedService_arrives {transport : Transport} {a : AgentAnnouncement}
    {serviceType hostName : String} (h : Arrives transport (toServiceInfo a serviceType hostName))
    (addresses : List IpAddr) :
    fromResolvedService ((toServiceInfo a serviceType hostName).resolved transport addresses)=
      fromTxtProperties (transport.fullname (toServiceInfo a serviceType hostName)) a.port addresses
        (transported (toTxtProperties a)) := by
  rw [fromResolvedService,ServiceInfo.resolved,h.port,h.properties]
  rfl

end MeshPresence.ServiceTransport
