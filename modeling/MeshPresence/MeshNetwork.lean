import MeshPresence.CopyInvariants
import MeshPresence.MeshBuilder
import MeshPresence.NodeFamilies
import MeshPresence.RunTraces
import MeshPresence.ServiceTransport

/-!
# A network of nodes

Nodes are built at any time, take their own steps in any order, and may vanish without a
goodbye. A service that a node registered may be resolved at any node, any number of times,
in any order and after any delay, with whatever addresses the resolution reports; it may
also be lost. Devices that run other programs may publish any service. Removals and
expiries are reported to a listener at any time and under any name. What arrives of a
registered service is up to the transport, which is a parameter.

The registered and the foreign services are history: the services that may still be resolved.
So is the record of what nodes signed.
-/

namespace MeshPresence.MeshNetwork

open FallibleSteps GuardedRuns RunTraces NodeFamilies AgentTypes AgentConfig AgentWire AgentRegistry
open AgentListener AnnouncementInvariant MeshBuilder MeshRuntime MeshEffects
open LocalEntry CopyInvariants ServiceTransport

/-- A successful call of `announce`. -/
structure Registration where
  /-- Configuration of the node that announced. -/
  config : ZeroConfConfig
  /-- The announcement. -/
  announcement : AgentAnnouncement
  deriving DecidableEq

/-- The service that was registered. -/
def Registration.service (r : Registration) : ServiceInfo :=
  toServiceInfo r.announcement r.config.serviceType r.config.hostName

/-- A signature over an announcement. -/
structure Signing where
  /-- Configuration of the node that signed. -/
  config : ZeroConfConfig
  /-- The settings it signed with. -/
  auth : SharedSecretAuth
  /-- The signed announcement. -/
  announcement : AgentAnnouncement
  deriving DecidableEq

/-- What the write sections of a node after the first ones signed, when they are one at most. -/
def signings (before : ℕ) (m : Mesh) : List Signing :=
  (m.shared.sections.drop before).filterMap fun mutator =>
    match mutator with
    | .applySharedSecretAuth auth =>
      some { config := m.config, auth, announcement := m.shared.localAgent }
    | .update _ => none

/-- The nodes of a network and the services that were published on it. -/
structure Network (ι : Type) where
  /-- Live nodes. -/
  nodes : ι → Option Mesh
  /-- Services registered by nodes, oldest first. -/
  registered : List Registration
  /-- Signatures of nodes, oldest first. -/
  signed : List Signing
  /-- Services published by other programs, oldest first. -/
  foreign : List ResolvedService

/-- No node is live and nothing was published. -/
def Network.empty (ι : Type) : Network ι where
  nodes := fun _ => none
  registered := []
  signed := []
  foreign := []

/-- Steps of a network. -/
inductive NetworkAction (ι : Type) where
  /-- A node is built, with a generated identifier at hand. -/
  | build (i : ι) (generatedId : String) (builder : ZeroConfMeshBuilder)
  /-- A node takes a step of its own. -/
  | act (i : ι) (action : Action)
  /-- A registered service is resolved at a node. -/
  | deliver (i : ι) (n : ℕ) (addresses : List IpAddr) (now : Instant)
  /-- A service of another program is resolved at a node. -/
  | inject (i : ι) (service : ResolvedService) (now : Instant)
  /-- A node stops without a goodbye. -/
  | vanish (i : ι)

/-- The step in which a listener handles a resolved service. -/
def resolution (service : ResolvedService) (now : Instant) : Action :=
  .task (.browse (.serviceResolved service now))

/-- Whether a step handles a resolved service. -/
def isResolution : Action → Bool
  | .task (.browse (.serviceResolved _ _)) => true
  | _ => false

/-- The service that a step registers. -/
def registration (m : Mesh) (action : Action) : Option Registration :=
  if fails action then none
  else (announced m action).map fun snapshot =>
    { config := m.config, announcement := snapshot.announcement }

variable {ι : Type} [DecidableEq ι]

/-- The network after a node moved. -/
def Network.moved (net : Network ι) (i : ι) (m : Mesh) (action : Action) (m' : Mesh) :
    Network ι :=
  { net with nodes := place net.nodes i (some m')
             registered := net.registered ++ (registration m action).toList
             signed := net.signed ++ signings m.shared.sections.length m' }

/-- The network after a node was built. -/
def Network.built (net : Network ι) (i : ι) (m : Mesh) : Network ι :=
  { net with nodes := place net.nodes i (some m), signed := net.signed ++ signings 0 m }

/-- A node takes a step. -/
def Network.move (mac : Mac) (net : Network ι) (i : ι) (action : Action) : Option (Network ι) :=
  match net.nodes i with
  | some m =>
    match MeshRuntime.step mac m action with
    | some m' => some (net.moved i m action m')
    | none => none
  | none => none

/-- One step of a network. -/
def Network.step (mac : Mac) (transport : Transport) (net : Network ι) :
    NetworkAction ι → Option (Network ι)
  | .build i generatedId builder =>
    match net.nodes i,buildConfig generatedId builder >>= Mesh.init mac with
    | none,.ok m => some (net.built i m)
    | _,_ => none
  | .act i action => if isResolution action then none else net.move mac i action
  | .deliver i n addresses now =>
    match net.registered[n]? with
    | some r => net.move mac i (resolution (r.service.resolved transport addresses) now)
    | none => none
  | .inject i service now =>
    Network.move mac { net with foreign := net.foreign ++ [service] } i (resolution service now)
  | .vanish i => some { net with nodes := place net.nodes i none }

/-- The moves of a network. -/
inductive NetworkMove (mac : Mac) (transport : Transport) (net : Network ι) :
    NetworkAction ι → Network ι → Prop where
  /-- A node is built. -/
  | build (i : ι) (generatedId : String) (builder : ZeroConfMeshBuilder) (config : ZeroConfConfig)
      (m : Mesh) (free : net.nodes i=none) (hconfig : buildConfig generatedId builder=.ok config)
      (hinit : Mesh.init mac config=.ok m) :
      NetworkMove mac transport net (.build i generatedId builder) (net.built i m)
  /-- A node takes a step of its own. -/
  | act (i : ι) (action : Action) (m m' : Mesh) (hnode : net.nodes i=some m)
      (hown : isResolution action=false) (hstep : MeshRuntime.step mac m action=some m') :
      NetworkMove mac transport net (.act i action) (net.moved i m action m')
  /-- A registered service is resolved. -/
  | deliver (i : ι) (n : ℕ) (addresses : List IpAddr) (now : Instant) (r : Registration)
      (m m' : Mesh) (hnode : net.nodes i=some m) (hregistered : net.registered[n]?=some r)
      (hstep : MeshRuntime.step mac m (resolution (r.service.resolved transport addresses) now)=
        some m') :
      NetworkMove mac transport net (.deliver i n addresses now)
        { net with nodes := place net.nodes i (some m') }
  /-- A foreign service is resolved. -/
  | inject (i : ι) (service : ResolvedService) (now : Instant) (m m' : Mesh)
      (hnode : net.nodes i=some m) (hstep : MeshRuntime.step mac m (resolution service now)=some m') :
      NetworkMove mac transport net (.inject i service now)
        { net with nodes := place net.nodes i (some m'), foreign := net.foreign ++ [service] }
  /-- A node vanishes. -/
  | vanish (i : ι) :
      NetworkMove mac transport net (.vanish i) { net with nodes := place net.nodes i none }

section Steps

variable {mac : Mac} {transport : Transport} {net net' : Network ι}
  {action : NetworkAction ι}

/-- A node that moves is live and takes the step. -/
theorem move_ok {i : ι} {own : Action} (h : net.move mac i own=some net') :
    ∃ m m', net.nodes i=some m ∧ MeshRuntime.step mac m own=some m' ∧
      net'=net.moved i m own m' := by
  unfold Network.move at h
  split at h
  · next m hnode =>
    split at h
    · next m' hstep =>
      cases h
      exact ⟨m,m',hnode,hstep,rfl⟩
    · cases h
  · cases h

/-- Handling a resolved service registers and signs nothing. -/
theorem moved_resolution (net : Network ι) (i : ι) {m m' : Mesh} {service : ResolvedService}
    {now : Instant} (h : MeshRuntime.step mac m (resolution service now)=some m') :
    net.moved i m (resolution service now) m'=
      { net with nodes := place net.nodes i (some m') } := by
  have hnone : registration m (resolution service now)=none := rfl
  have hsections : signings m.shared.sections.length m'=[] := by
    simp only [MeshRuntime.step,resolution,Mesh.taskStep] at h
    split at h
    · cases h
      rw [signings,List.drop_length,List.filterMap_nil]
    · cases h
  rw [Network.moved,hnone,hsections,Option.toList_none,List.append_nil,List.append_nil]

/-- A step of a network is one of its moves. -/
theorem step_cases (h : net.step mac transport action=some net') :
    NetworkMove mac transport net action net' := by
  cases action with
  | build i generatedId builder =>
    simp only [Network.step] at h
    split at h
    · next m hfree hbuilt =>
      cases h
      obtain ⟨config,hconfig,hinit⟩ := bind_ok hbuilt
      exact .build i generatedId builder config m hfree hconfig hinit
    · cases h
  | act i own =>
    simp only [Network.step] at h
    split at h
    · cases h
    · next hown =>
      obtain ⟨m,m',hnode,hstep,rfl⟩ := move_ok h
      exact .act i own m m' hnode (Bool.eq_false_iff.mpr hown) hstep
  | deliver i n addresses now =>
    simp only [Network.step] at h
    split at h
    · next r hregistered =>
      obtain ⟨m,m',hnode,hstep,rfl⟩ := move_ok h
      rw [moved_resolution net i hstep]
      exact .deliver i n addresses now r m m' hnode hregistered hstep
    · cases h
  | inject i service now =>
    obtain ⟨m,m',hnode,hstep,rfl⟩ := move_ok h
    rw [moved_resolution _ i hstep]
    exact .inject i service now m m' hnode hstep
  | vanish i =>
    cases h
    exact .vanish i

/-- What holds of every node that is built and is kept by its steps holds of all live nodes. -/
theorem live_step {P : ι → Mesh → Prop} (hinit : ∀ i config m, Validated config →
      Mesh.init mac config=.ok m → P i m)
    (hstep : ∀ i m own m', P i m → MeshRuntime.step mac m own=some m' → P i m')
    (h : Live P net.nodes) (hs : net.step mac transport action=some net') : Live P net'.nodes := by
  cases step_cases hs with
  | build i generatedId builder config m free hconfig hm =>
    exact h.place (hinit i config m (buildConfig_built hconfig).validated hm)
  | act i own m m' hnode hown hm => exact h.place (hstep i m own m' (h i m hnode) hm)
  | deliver i n addresses now r m m' hnode hregistered hm =>
    exact h.place (hstep i m _ m' (h i m hnode) hm)
  | inject i service now m m' hnode hm => exact h.place (hstep i m _ m' (h i m hnode) hm)
  | vanish i => exact h.clear i

end Steps

/-- The step of a node that a step of the network is. -/
def ownAction (transport : Transport) (i : ι) (net : Network ι) : NetworkAction ι → Option Action
  | .act k own => if k=i then some own else none
  | .deliver k n addresses now =>
    if k=i then net.registered[n]?.map fun r =>
      resolution (r.service.resolved transport addresses) now
    else none
  | .inject k service now => if k=i then some (resolution service now) else none
  | .build _ _ _ | .vanish _ => none

/-- A node as it was built, and the steps that it took since. -/
structure OwnRun where
  /-- The node when it was built. -/
  start : Mesh
  /-- Its steps, oldest first. -/
  steps : List Action

/-- A node's own run after a step of the network: a build starts it, the node's own steps are
added, and it ends when the node vanishes. -/
def ownRunAfter (mac : Mac) (transport : Transport) (i : ι) (net : Network ι)
    (known : Option OwnRun) : NetworkAction ι → Option OwnRun
  | .build k generatedId builder =>
    if k=i then (buildConfig generatedId builder >>= Mesh.init mac).toOption.map fun m =>
      { start := m, steps := [] }
    else known
  | .vanish k => if k=i then none else known
  | action => known.map fun run =>
    { run with steps := run.steps ++ (ownAction transport i net action).toList }

/-- A node's own run at the end of a schedule. -/
def ownRun (mac : Mac) (transport : Transport) (i : ι) (net : Network ι)
    (known : Option OwnRun) : List (NetworkAction ι) → Option OwnRun
  | [] => known
  | action :: actions =>
    match net.step mac transport action with
    | some net' => ownRun mac transport i net' (ownRunAfter mac transport i net known action) actions
    | none => known

/-- The own run of a node that is live starts with a node of a validated configuration and leads
to the node. -/
def OwnRunOf (mac : Mac) (i : ι) (net : Network ι) (known : Option OwnRun) : Prop :=
  ∀ m, net.nodes i=some m → ∃ config run, known=some run ∧ Validated config ∧
    Mesh.init mac config=.ok run.start ∧ exec (MeshRuntime.step mac) run.start run.steps=some m

section OwnRuns

variable {mac : Mac} {transport : Transport} {net net' : Network ι} {i : ι}
  {known : Option OwnRun} {action : NetworkAction ι}

/-- A step of the node itself is added to its own run. -/
theorem OwnRunOf.add (h : OwnRunOf mac i net known) {m m' : Mesh} {own : Action}
    (hnode : net.nodes i=some m) (hs : MeshRuntime.step mac m own=some m')
    (hnodes : net'.nodes=place net.nodes i (some m')) :
    OwnRunOf mac i net' (known.map fun run => { run with steps := run.steps ++ [own] }) := by
  intro t ht
  rw [hnodes,place_self] at ht
  cases ht
  obtain ⟨config,run,rfl,hvalid,hinit,hrun⟩ := h m hnode
  exact ⟨config,_,rfl,hvalid,hinit,exec_append hrun (exec_singleton hs)⟩

/-- A step at another place adds nothing. -/
theorem OwnRunOf.skip (h : OwnRunOf mac i net known) {k : ι} {s : Option Mesh} (hk : i ≠ k)
    (hnodes : net'.nodes=place net.nodes k s) :
    OwnRunOf mac i net' (known.map fun run => { run with steps := run.steps ++ [] }) := by
  intro t ht
  rw [hnodes,place_ne net.nodes s hk] at ht
  obtain ⟨config,run,rfl,hvalid,hinit,hrun⟩ := h t ht
  refine ⟨config,run,?_,hvalid,hinit,hrun⟩
  simp only [List.append_nil,Option.map_some]

/-- Every step of the network extends the own run. -/
theorem OwnRunOf.step (h : OwnRunOf mac i net known) (hs : net.step mac transport action=some net') :
    OwnRunOf mac i net' (ownRunAfter mac transport i net known action) := by
  cases step_cases hs with
  | build k generatedId builder config m free hconfig hinit =>
    have hbuilt : (buildConfig generatedId builder >>= Mesh.init mac).toOption=some m := by
      rw [hconfig,ok_bind,hinit]
      rfl
    intro t ht
    dsimp only [Network.built] at ht
    by_cases hk : k=i
    · subst hk
      rw [place_self] at ht
      cases ht
      rw [ownRunAfter,if_pos rfl,hbuilt]
      exact ⟨config,_,rfl,(buildConfig_built hconfig).validated,hinit,rfl⟩
    · rw [place_ne net.nodes _ (Ne.symm hk)] at ht
      rw [ownRunAfter,if_neg hk]
      exact h t ht
  | act k own m m' hnode hown hm =>
    by_cases hk : k=i
    · subst hk
      simp only [ownRunAfter,ownAction,if_true,Option.toList_some]
      exact h.add hnode hm rfl
    · simp only [ownRunAfter,ownAction,if_neg hk,Option.toList_none]
      exact h.skip (Ne.symm hk) rfl
  | deliver k n addresses now r m m' hnode hregistered hm =>
    by_cases hk : k=i
    · subst hk
      simp only [ownRunAfter,ownAction,if_true,hregistered,Option.map_some,Option.toList_some]
      exact h.add hnode hm rfl
    · simp only [ownRunAfter,ownAction,if_neg hk,Option.toList_none]
      exact h.skip (Ne.symm hk) rfl
  | inject k service now m m' hnode hm =>
    by_cases hk : k=i
    · subst hk
      simp only [ownRunAfter,ownAction,if_true,Option.toList_some]
      exact h.add hnode hm rfl
    · simp only [ownRunAfter,ownAction,if_neg hk,Option.toList_none]
      exact h.skip (Ne.symm hk) rfl
  | vanish k =>
    intro t ht
    dsimp only at ht
    by_cases hk : k=i
    · subst hk
      rw [place_self] at ht
      cases ht
    · rw [place_ne net.nodes none (Ne.symm hk)] at ht
      rw [ownRunAfter,if_neg hk]
      exact h t ht

/-- The own run of a live node is that of a node of a validated configuration, and leads to it. -/
theorem OwnRunOf.run (h : OwnRunOf mac i net known) {actions : List (NetworkAction ι)}
    (hrun : exec (Network.step mac transport) net actions=some net') :
    OwnRunOf mac i net' (ownRun mac transport i net known actions) := by
  induction actions generalizing net known with
  | nil =>
    cases hrun
    exact h
  | cons action actions ih =>
    obtain ⟨next,hnext,hrest⟩ := exec_cons hrun
    rw [ownRun,hnext]
    exact ih (h.step hnext) hrest

/-- A live node of a reachable network took the steps of its own run since it was built. -/
theorem node_run {actions : List (NetworkAction ι)}
    (hrun : exec (Network.step mac transport) (Network.empty ι) actions=some net) {m : Mesh}
    (hnode : net.nodes i=some m) : ∃ config run,
      ownRun mac transport i (Network.empty ι) none actions=some run ∧ Validated config ∧
      Mesh.init mac config=.ok run.start ∧
      exec (MeshRuntime.step mac) run.start run.steps=some m := by
  have hempty : OwnRunOf mac i (Network.empty ι) none := fun m hm => nomatch hm
  exact hempty.run hrun m hnode

end OwnRuns

/-- A node starts and registers itself before another one starts to listen and hears of it. -/
def firstMeeting : List (NetworkAction Bool) :=
  [.build false "" { agentId := some "agent-a", port := some 8080 },
   .act false (.start (.announce (.ok ()))),
   .build true "" { agentId := some "agent-b", port := some 8081 },
   .act true (.start (.announce (.ok ()))),.act true (.start (.listen (.ok ()))),
   .deliver true 0 [.v4 0x7f000001#32] 1]

/-- The network after the meeting. -/
def meeting : Network Bool :=
  (exec (Network.step Mac.recorded plainTransport) (Network.empty Bool) firstMeeting).get
    (by decide +kernel)

/-- The listening node. -/
def greeter : Mesh := (meeting.nodes true).get (by decide +kernel)

/-- The record of the other node. -/
def greeted : AgentInfo := (greeter.shared.registry.inner["agent-a"]?).get (by decide +kernel)

end MeshPresence.MeshNetwork
