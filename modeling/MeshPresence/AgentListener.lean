import MeshPresence.AgentRegistry

/-!
# The browse listener

The listener turns browse events of the mDNS daemon into registry updates. A
resolved service is parsed; the local agent is skipped, and under verifying
shared-secret settings so is every announcement that does not verify. A removed
service is looked up by its full name. The loop ends when the search stops or
the event channel closes. Events carry the clock reading or the iteration order
that their handling meets.
-/

namespace MeshPresence.AgentListener

open AgentTypes AgentConfig AgentWire AgentRegistry

/-- Events of the browse channel. -/
inductive BrowseEvent where
  /-- A service was resolved. -/
  | serviceResolved (service : ResolvedService) (now : Instant)
  /-- A service was removed. -/
  | serviceRemoved (serviceType fullname : String) (order : AgentOrder)
  /-- The search started. -/
  | searchStarted (tyDomain : String)
  /-- The search stopped. -/
  | searchStopped (tyDomain : String)
  /-- A service was found but not resolved yet. -/
  | serviceFound (serviceType fullname : String)
  /-- Any other event of the daemon. -/
  | other
  /-- The channel was closed. -/
  | channelClosed

/-- Settings of the listener task. -/
structure Listener where
  /-- Browsed service type. -/
  serviceType : String
  /-- Identifier of the local agent. -/
  localAgentId : String
  /-- Full instance name of the local agent. -/
  localInstanceName : String
  /-- Shared-secret settings, when enabled. -/
  sharedSecretAuth : Option SharedSecretAuth

/-- The listener that a node starts for its configuration. -/
def Listener.ofConfig (config : ZeroConfConfig) : Listener where
  serviceType := config.serviceType
  localAgentId := config.agentId
  localInstanceName := config.instanceName
  sharedSecretAuth := config.sharedSecretAuth

/-- Verifying settings turn away an announcement that does not verify. -/
def Listener.rejects (mac : Mac) (listener : Listener) (announcement : AgentAnnouncement) : Bool :=
  match listener.sharedSecretAuth with
  | some auth => auth.verifiesIncoming && !(verifySharedSecretAuth mac announcement auth).isOk
  | none => false

/-- Registry after one browse event. -/
def Listener.handle (mac : Mac) (listener : Listener) (registry : Registry) :
    BrowseEvent → Registry
  | .serviceResolved service now =>
    match fromResolvedService service with
    | .ok announcement =>
      if announcement.agentId=listener.localAgentId then registry
      else if listener.rejects mac announcement then registry
      else (registry.upsertRemote announcement now).2
    | .error _ => registry
  | .serviceRemoved _ fullname order =>
    if fullname ≠ listener.localInstanceName then
      (registry.removeRemoteByInstanceName order fullname).2
    else registry
  | _ => registry

/-- Events after which the loop ends. -/
def BrowseEvent.stops : BrowseEvent → Bool
  | .searchStopped _ => true
  | .channelClosed => true
  | _ => false

/-- The listener loop over the events of its channel. -/
def runListener (mac : Mac) (listener : Listener) (registry : Registry) :
    List BrowseEvent → Registry
  | [] => registry
  | event :: events =>
    if event.stops then listener.handle mac registry event
    else runListener mac listener (listener.handle mac registry event) events

/-- Everything that reaches the registry of a listening node: browse events,
upserts of the local agent, and sweeps. -/
inductive NodeOp where
  /-- The listener receives an event. -/
  | browse (event : BrowseEvent)
  /-- The local agent is upserted. -/
  | upsertLocal (announcement : AgentAnnouncement) (now : Instant)
  /-- The sweeper evicts stale records. -/
  | evictStale (order : AgentOrder) (now : Instant)

/-- Registry of a listening node and whether the listener loop still runs. -/
structure NodeState where
  /-- Registry state. -/
  registry : Registry
  /-- The listener loop has not ended. -/
  listening : Bool

/-- One operation on a listening node. -/
def NodeState.step (mac : Mac) (listener : Listener) (s : NodeState) : NodeOp → NodeState
  | .browse event =>
    if s.listening then
      { registry := listener.handle mac s.registry event, listening := !event.stops }
    else s
  | .upsertLocal announcement now =>
    { s with registry := (s.registry.upsertLocal announcement now).2 }
  | .evictStale order now => { s with registry := (s.registry.evictStaleAt order now).2 }

/-- All operations of a schedule, from a registry with a running listener. -/
def NodeState.run (mac : Mac) (listener : Listener) (registry : Registry) (ops : List NodeOp) :
    NodeState :=
  ops.foldl (NodeState.step mac listener) { registry, listening := true }

/-- A node without local activity runs the listener loop. -/
theorem run_browse (mac : Mac) (listener : Listener) (registry : Registry)
    (events : List BrowseEvent) :
    (NodeState.run mac listener registry (events.map NodeOp.browse)).registry=
      runListener mac listener registry events := by
  have hstopped : ∀ (events : List BrowseEvent) (registry : Registry),
      ((events.map NodeOp.browse).foldl (NodeState.step mac listener)
        { registry, listening := false }).registry=registry := by
    intro events
    induction events with
    | nil => exact fun _ => rfl
    | cons event events ih => exact fun registry => ih registry
  induction events generalizing registry with
  | nil => rfl
  | cons event events ih =>
    unfold runListener
    cases hs : event.stops with
    | true =>
      simpa only [NodeState.run,List.map_cons,List.foldl_cons,NodeState.step,hs,if_true,
        Bool.not_true] using hstopped events (listener.handle mac registry event)
    | false =>
      simpa only [NodeState.run,List.map_cons,List.foldl_cons,NodeState.step,hs,if_true,
        Bool.not_false,Bool.false_eq_true,if_false] using ih (listener.handle mac registry event)

/-- The announcement that the listener takes from a resolved service, when it
parses, is not about the local agent and is not rejected. -/
def Listener.admits (mac : Mac) (listener : Listener) (service : ResolvedService) :
    Option AgentAnnouncement :=
  match fromResolvedService service with
  | .ok announcement =>
    if announcement.agentId=listener.localAgentId then none
    else if listener.rejects mac announcement then none
    else some announcement
  | .error _ => none

/-- What is known about an admitted announcement. -/
theorem admits_some {mac : Mac} {listener : Listener} {service : ResolvedService}
    {announcement : AgentAnnouncement} (h : listener.admits mac service=some announcement) :
    fromResolvedService service=.ok announcement ∧
      announcement.agentId ≠ listener.localAgentId ∧
      listener.rejects mac announcement=false := by
  unfold Listener.admits at h
  split at h
  · next hparse =>
    split at h
    · cases h
    · next hid =>
      split at h
      · cases h
      · next hreject =>
        cases h
        exact ⟨hparse,hid,Bool.eq_false_iff.mpr hreject⟩
  · cases h

/-- A resolved service upserts the announcement that the listener admits. -/
theorem handle_serviceResolved (mac : Mac) (listener : Listener) (r : Registry)
    (service : ResolvedService) (now : Instant) :
    listener.handle mac r (.serviceResolved service now)=
      match listener.admits mac service with
      | some announcement => (r.upsertRemote announcement now).2
      | none => r := by
  cases hparse : fromResolvedService service with
  | error e => simp only [Listener.handle,Listener.admits,hparse]
  | ok announcement =>
    by_cases hid : announcement.agentId=listener.localAgentId
    · simp only [Listener.handle,Listener.admits,hparse,hid,if_true]
    · cases hreject : listener.rejects mac announcement with
      | true => simp only [Listener.handle,Listener.admits,hparse,hid,hreject,if_false,if_true]
      | false =>
        simp only [Listener.handle,Listener.admits,hparse,hid,hreject,if_false,Bool.false_eq_true]

/-- A browse event either leaves the registry alone, upserts an admitted
announcement, or removes by a name that is not the local one. -/
theorem handle_cases (mac : Mac) (listener : Listener) (r : Registry) (event : BrowseEvent) :
    listener.handle mac r event=r ∨
    (∃ service now announcement, event=.serviceResolved service now ∧
      listener.admits mac service=some announcement ∧
      listener.handle mac r event=(r.upsertRemote announcement now).2) ∨
    (∃ serviceType fullname order, event=.serviceRemoved serviceType fullname order ∧
      fullname ≠ listener.localInstanceName ∧
      listener.handle mac r event=(r.removeRemoteByInstanceName order fullname).2) := by
  cases event with
  | serviceResolved service now =>
    have hhandle := handle_serviceResolved mac listener r service now
    cases ha : listener.admits mac service with
    | none => exact Or.inl (by rw [hhandle,ha])
    | some announcement =>
      exact Or.inr (Or.inl ⟨service,now,announcement,rfl,ha,by rw [hhandle,ha]⟩)
  | serviceRemoved serviceType fullname order =>
    by_cases hn : fullname=listener.localInstanceName
    · exact Or.inl (by simp only [Listener.handle,hn,ne_eq,not_true_eq_false,if_false])
    · refine Or.inr (Or.inr ⟨serviceType,fullname,order,rfl,hn,?_⟩)
      simp only [Listener.handle,hn,ne_eq,not_false_eq_true,if_true]
  | searchStarted _ => exact Or.inl rfl
  | searchStopped _ => exact Or.inl rfl
  | serviceFound _ _ => exact Or.inl rfl
  | other => exact Or.inl rfl
  | channelClosed => exact Or.inl rfl

/-- A peer as its service is resolved, with the given identifier and signature. -/
def samplePeer (agentId signature : String) : ResolvedService where
  fullname := "agent-peer._agent-mesh._tcp.local."
  port := 8081
  addresses := [.v4 0x7f000001#32]
  properties := [("agent_id",agentId),("capabilities","plan,review"),("current_branch","main"),
    ("current_project","alpha"),("role","reviewer"),("status","idle"),("team","blue"),
    ("zcm_auth","shared_secret_hmac_sha256"),("zcm_sig",signature)].map TxtProperty.ofEntry

/-- The removal of the peer, with the order that its lookup meets. -/
def samplePeerRemoved (order : AgentOrder) : BrowseEvent :=
  .serviceRemoved "_agent-mesh._tcp.local." "agent-peer._agent-mesh._tcp.local." order

end MeshPresence.AgentListener
