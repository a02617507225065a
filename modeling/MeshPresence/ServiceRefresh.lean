import MeshPresence.AnnouncementInvariant
import MeshPresence.ListenerAdmission

/-!
# Resolving an unchanged service again

Addresses pass through decoding, admission and signature checks without being read. A
second resolution with the same name, port and properties is therefore admitted again as
the same announcement with its own address list. The registry compares the lists in
order, so the second upsert is a pure refresh exactly when both resolutions listed the
addresses in the same order; the order of an unordered set may differ.
-/

namespace MeshPresence.ServiceRefresh

open FallibleSteps AgentTypes AgentConfig AgentWire AgentRegistry AgentListener
open AnnouncementInvariant

/-- Replace the addresses of an announcement. -/
def withAddresses (addresses : List IpAddr) (a : AgentAnnouncement) : AgentAnnouncement :=
  { a with addresses }

/-- The constructor stores the addresses without reading them. -/
theorem new_withAddresses {instanceName agentId role project branch : String}
    {status : AgentStatus} {port : UInt16} {addresses : List IpAddr} {metadata : AgentMetadata}
    {a : AgentAnnouncement}
    (h : AgentAnnouncement.new instanceName agentId role project branch status port addresses
      metadata=.ok a) (addresses' : List IpAddr) :
    a.addresses=addresses ∧
      AgentAnnouncement.new instanceName agentId role project branch status port addresses'
        metadata=.ok (withAddresses addresses' a) := by
  obtain ⟨haccepted,capabilities,hcap,rfl⟩ := new_iff.mp h
  exact ⟨rfl,new_iff.mpr ⟨haccepted,capabilities,hcap,rfl⟩⟩

/-- The decoder stores the addresses without reading them. -/
theorem fromTxtProperties_withAddresses {instanceName : String} {port : UInt16}
    {addresses : List IpAddr} {properties : TxtProperties} {a : AgentAnnouncement}
    (h : fromTxtProperties instanceName port addresses properties=.ok a)
    (addresses' : List IpAddr) :
    a.addresses=addresses ∧
      fromTxtProperties instanceName port addresses' properties=
        .ok (withAddresses addresses' a) := by
  obtain ⟨_,hmetadata,h⟩ := bind_ok h
  obtain ⟨_,hid,h⟩ := bind_ok h
  obtain ⟨_,hrole,h⟩ := bind_ok h
  obtain ⟨_,hproject,h⟩ := bind_ok h
  obtain ⟨_,hbranch,h⟩ := bind_ok h
  obtain ⟨_,hstatusText,h⟩ := bind_ok h
  obtain ⟨_,hstatus,h⟩ := bind_ok h
  obtain ⟨haddresses,hnew⟩ := new_withAddresses h addresses'
  refine ⟨haddresses,?_⟩
  rw [fromTxtProperties,hmetadata,ok_bind,hid,ok_bind,hrole,ok_bind,hproject,ok_bind,hbranch,
    ok_bind,hstatusText,ok_bind,hstatus,ok_bind,hnew]

/-- A second resolution with the same name, port and properties. -/
structure Again (service again : ResolvedService) : Prop where
  /-- Same full name. -/
  fullname : again.fullname=service.fullname
  /-- Same port. -/
  port : again.port=service.port
  /-- Same TXT properties. -/
  properties : again.properties=service.properties

/-- An admitted service is admitted again, with the addresses of its second resolution. -/
theorem admits_again {mac : Mac} {listener : Listener} {service again : ResolvedService}
    (hagain : Again service again) {a : AgentAnnouncement}
    (h : listener.admits mac service=some a) :
    a.addresses=service.addresses ∧
      listener.admits mac again=some (withAddresses again.addresses a) := by
  obtain ⟨hparse,hid,hreject⟩ := admits_some h
  obtain ⟨haddresses,hparse'⟩ := fromTxtProperties_withAddresses hparse again.addresses
  refine ⟨haddresses,?_⟩
  rw [←hagain.fullname,←hagain.port,←hagain.properties,←fromResolvedService] at hparse'
  have hid' : (withAddresses again.addresses a).agentId ≠ listener.localAgentId := hid
  have hreject' : listener.rejects mac (withAddresses again.addresses a)=false := hreject
  simp only [Listener.admits,hparse',hid',hreject',if_false,Bool.false_eq_true]

/-- The upsert only moved the observation time of one record. -/
structure PureRefresh (r : Registry) (agentId : String) (now : Instant)
    (outcome : RegistryUpsert × Registry) : Prop where
  /-- The upsert is reported as a refresh. -/
  refreshed : ∃ agent, outcome.1=.refreshed agent
  /-- No event is sent. -/
  events : outcome.2.events=r.events
  /-- The TTL is unchanged. -/
  ttl : outcome.2.ttl=r.ttl
  /-- The record keeps everything but its observation time. -/
  entry : outcome.2.inner[agentId]?=r.inner[agentId]?.map fun agent => refreshLastSeen agent now
  /-- The other records are unchanged. -/
  others : ∀ id, id ≠ agentId → outcome.2.inner[id]?=r.inner[id]?

/-- Upserting an announcement over the record of another one is a pure refresh exactly
when both are the same announcement. -/
theorem pureRefresh_iff {r : Registry} {a b : AgentAnnouncement} {seenAt : Instant}
    (hentry : r.inner[b.agentId]?=some (intoAgentInfo a seenAt)) (now : Instant)
    (origin : EventOrigin) :
    PureRefresh r b.agentId now (r.upsertWithOriginAt b now origin) ↔ b=a := by
  rcases upsertWithOriginAt_cases r b now origin with ⟨hnone,-⟩|⟨e,he,hp,hr⟩|⟨e,he,hp,hr⟩
  · rw [hentry] at hnone
    cases hnone
  · rw [hentry] at he
    cases he
    refine iff_of_true ⟨?_,?_,?_,?_,?_⟩ hp.symm
    · exact ⟨_,congrArg Prod.fst hr⟩
    · rw [hr]
    · rw [hr]
    · rw [hr,hentry]
      exact Std.ExtTreeMap.getElem?_insert_self
    · intro id hid
      exact upsertWithOriginAt_other r now origin hid.symm
  · rw [hentry] at he
    cases he
    refine iff_of_false (fun h => ?_) fun hb => hp hb.symm
    obtain ⟨agent,hagent⟩ := h.refreshed
    rw [hr] at hagent
    cases hagent

/-- For every registry and every service that the listener admits: a second resolution
with the same full name, port and TXT properties is admitted again, and its upsert is a
pure refresh exactly when it lists the addresses in the order of the first. -/
theorem refresh_iff_same_order (mac : Mac) (listener : Listener) (r : Registry)
    {service again : ResolvedService} (hagain : Again service again) {a : AgentAnnouncement}
    (ha : listener.admits mac service=some a) (first second : Instant) :
    let r₁ := listener.handle mac r (.serviceResolved service first)
    ∃ b, listener.admits mac again=some b ∧
      listener.handle mac r₁ (.serviceResolved again second)=(r₁.upsertRemote b second).2 ∧
      (PureRefresh r₁ a.agentId second (r₁.upsertRemote b second) ↔
        again.addresses=service.addresses) := by
  intro r₁
  obtain ⟨haddresses,hadmits⟩ := admits_again hagain ha
  refine ⟨withAddresses again.addresses a,hadmits,?_,?_⟩
  · rw [handle_serviceResolved,hadmits]
  · have hr₁ : r₁=(r.upsertRemote a first).2 := by
      rw [show r₁=listener.handle mac r (.serviceResolved service first) from rfl,
        handle_serviceResolved,ha]
    have hentry : r₁.inner[(withAddresses again.addresses a).agentId]?=
        some (intoAgentInfo a first) := by
      rw [hr₁]
      exact upsertWithOriginAt_same r a first .remoteOrigin
    have hsame : withAddresses again.addresses a=a ↔ again.addresses=service.addresses := by
      rw [←haddresses]
      constructor
      · exact congrArg AgentAnnouncement.addresses
      · intro he
        rw [withAddresses,he]
    exact (pureRefresh_iff hentry second .remoteOrigin).trans hsame

/-- A peer with two addresses. -/
def multihomedAddresses : List IpAddr := [.v4 0x0a000002#32,.v6 0xfd000000000000000000000000000002#128]

/-- The peer as it is resolved with the addresses in some order. -/
def multihomedPeer (addresses : List IpAddr) : ResolvedService :=
  { samplePeer "agent-peer" "unsigned" with addresses }

/-- The announcement of the first resolution. -/
def multihomedAnnouncement : AgentAnnouncement :=
  ((Listener.ofConfig sampleConfig).admits Mac.recorded (multihomedPeer multihomedAddresses)).get
    (by decide +kernel)

/-- The peer is resolved twice, with its addresses in opposite orders. -/
theorem refresh_iff_same_order_multihomed :
    let listener := Listener.ofConfig sampleConfig
    let r₁ := listener.handle Mac.recorded (Registry.new sampleConfig.ttl)
      (.serviceResolved (multihomedPeer multihomedAddresses) 1)
    ∃ b, listener.admits Mac.recorded (multihomedPeer multihomedAddresses.reverse)=some b ∧
      listener.handle Mac.recorded r₁
        (.serviceResolved (multihomedPeer multihomedAddresses.reverse) 2)=
          (r₁.upsertRemote b 2).2 ∧
      (PureRefresh r₁ multihomedAnnouncement.agentId 2 (r₁.upsertRemote b 2) ↔
        multihomedAddresses.reverse=multihomedAddresses) := by
  have hagain : Again (multihomedPeer multihomedAddresses)
      (multihomedPeer multihomedAddresses.reverse) := ⟨rfl,rfl,rfl⟩
  have h := refresh_iff_same_order Mac.recorded (Listener.ofConfig sampleConfig)
    (Registry.new sampleConfig.ttl) hagain (a:=multihomedAnnouncement) (Option.some_get _).symm 1 2
  exact h

/-- The addresses before and after an update. -/
def updatedAddresses : RegistryUpsert → Option (List IpAddr × List IpAddr)
  | .updated previous current => some (previous.addresses,current.addresses)
  | _ => none

/-- The second resolution of the unchanged peer lists its two addresses in the other
order. The upsert reports an update, and an update event is sent. -/
theorem reordered_addresses_update :
    let listener := Listener.ofConfig sampleConfig
    let r₁ := listener.handle Mac.recorded (Registry.new sampleConfig.ttl)
      (.serviceResolved (multihomedPeer multihomedAddresses) 1)
    let r₂ := listener.handle Mac.recorded r₁
      (.serviceResolved (multihomedPeer multihomedAddresses.reverse) 2)
    multihomedAddresses.reverse.Perm multihomedAddresses ∧
    Again (multihomedPeer multihomedAddresses) (multihomedPeer multihomedAddresses.reverse) ∧
    ((listener.admits Mac.recorded (multihomedPeer multihomedAddresses.reverse)).bind fun b =>
      updatedAddresses (r₁.upsertRemote b 2).1)=
        some (multihomedAddresses,multihomedAddresses.reverse) ∧
    r₁.events.length=1 ∧ r₂.events.map (fun e => e.previous.map AgentInfo.addresses)=
      [none,some multihomedAddresses] := by
  refine ⟨List.reverse_perm _,⟨rfl,rfl,rfl⟩,?_⟩
  decide +kernel

end MeshPresence.ServiceRefresh
