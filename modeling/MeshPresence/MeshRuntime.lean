import MeshPresence.AgentListener
import MeshPresence.AnnouncementInvariant
import MeshPresence.OrderedPublication

/-!
# The running mesh as a system of atomic steps

A node shares its local announcement, its registry and the broadcaster between
the start-up, the heartbeat task, the listener task, the sweeper task, any number
of concurrent update calls, and the shutdown. Each step is one lock section, one
call of the broadcaster, or one event of a channel; steps of different parties
interleave freely. The arguments of an action are what its party meets: clock
readings, iteration orders, and results of the mDNS daemon.

The numbers of snapshots, the write sections and the record of broadcaster calls
are history: no step reads them. Dropping a node without shutting it down, and
second calls of `shutdown`, which return at once, are left out.
-/

namespace MeshPresence.MeshRuntime

open AgentTypes AgentConfig AgentWire AgentRegistry AgentListener AnnouncementInvariant
open OrderedPublication FallibleSteps

/-- A copy of the local announcement, numbered in the order the copies were made. -/
structure Snapshot where
  /-- The copied announcement. -/
  announcement : AgentAnnouncement
  /-- How many copies were made before. -/
  ticket : ℕ
  deriving DecidableEq

/-- Calls of the broadcaster. -/
inductive BroadcasterCall where
  /-- `announce`. -/
  | announce (announcement : AgentAnnouncement)
  /-- `unregister` of an instance name. -/
  | unregister (instanceName : String)
  deriving DecidableEq

/-- What the parties of a node share. -/
structure Shared where
  /-- The local announcement, behind its lock. -/
  localAgent : AgentAnnouncement
  /-- The registry, behind its lock. -/
  registry : Registry
  /-- Calls of the broadcaster so far, oldest first. -/
  wire : List BroadcasterCall
  /-- Number of snapshots made so far. -/
  taken : ℕ
  /-- Mutators of the write sections on the local announcement so far. -/
  sections : List Mutator
  deriving DecidableEq

/-- The local announcement as a reader copies it now. -/
def Shared.snapshot (s : Shared) : Snapshot := { announcement := s.localAgent, ticket := s.taken }

/-- A copy was made. -/
def Shared.copied (s : Shared) : Shared := { s with taken := s.taken+1 }

/-- A write section with one mutator. -/
def Shared.write (mac : Mac) (s : Shared) (mutator : Mutator) : Shared :=
  { s with localAgent := mutator.apply mac s.localAgent, sections := s.sections ++ [mutator] }

/-- The write section that signs when shared-secret settings are configured. -/
def Shared.sign (mac : Mac) (s : Shared) (auth : Option SharedSecretAuth) : Shared :=
  match auth with
  | some auth => s.write mac (.applySharedSecretAuth auth)
  | none => s

/-- A snapshot is handed to the broadcaster. -/
def Shared.announce (s : Shared) (snapshot : Snapshot) : Shared :=
  { s with wire := s.wire ++ [.announce snapshot.announcement] }

/-- The local service is withdrawn. -/
def Shared.unregister (s : Shared) (announcement : AgentAnnouncement) : Shared :=
  { s with wire := s.wire ++ [.unregister announcement.instanceName] }

/-- A snapshot is upserted as the local agent. -/
def Shared.upsertLocal (s : Shared) (snapshot : Snapshot) (now : Instant) : Shared :=
  { s with registry := (s.registry.upsertLocal snapshot.announcement now).2 }

/-- Start-up in `from_config`: announce, start the listener, upsert, spawn the
other tasks. A discovery-only node only starts the listener and the sweeper. -/
inductive StartPhase where
  /-- The announcement is next. -/
  | announce (snapshot : Snapshot)
  /-- The listener of an advertising node is next. -/
  | listen (snapshot : Snapshot)
  /-- The first upsert is next. -/
  | upsert (snapshot : Snapshot)
  /-- The listener of a discovery-only node is next. -/
  | listenOnly
  /-- The mesh was returned to its caller. -/
  | running
  /-- Start-up returned an error. -/
  | failed (error : ZeroConfError)
  deriving DecidableEq

/-- The heartbeat task. -/
inductive TickPhase where
  /-- Not spawned yet, or never on a discovery-only node. -/
  | notSpawned
  /-- Waiting for the next tick or the shutdown signal. -/
  | waiting
  /-- A tick copied the local announcement. -/
  | announce (snapshot : Snapshot)
  /-- A tick announced its copy. -/
  | upsert (snapshot : Snapshot)
  /-- The loop ended. -/
  | stopped
  deriving DecidableEq

/-- One `update_*` call, through `mutate_local_agent` and `refresh_local_agent`. -/
inductive CallPhase where
  /-- The mutator section is next. -/
  | mutate
  /-- The signing and copying section is next. -/
  | refresh
  /-- The announcement is next. -/
  | announce (snapshot : Snapshot)
  /-- The upsert is next. -/
  | upsert (snapshot : Snapshot)
  /-- The call returned. -/
  | returned (result : Except ZeroConfError Unit)
  deriving DecidableEq

/-- A call and how far it is. -/
structure Call where
  /-- Arguments of the call. -/
  update : LocalUpdate
  /-- Progress of the call. -/
  phase : CallPhase
  deriving DecidableEq

/-- The first call of `shutdown`. -/
inductive ShutdownPhase where
  /-- Not called yet. -/
  | idle
  /-- The signal was sent; copying the local announcement is next. -/
  | signalled
  /-- Withdrawing the service is next. -/
  | unregister (announcement : AgentAnnouncement)
  /-- Removing the local agent is next. -/
  | remove (announcement : AgentAnnouncement)
  /-- Joining the tasks is next. -/
  | join
  /-- The call returned. -/
  | returned
  deriving DecidableEq

/-- A node: its configuration, what its parties share, and how far each is. -/
structure Mesh where
  /-- Immutable configuration. -/
  config : ZeroConfConfig
  /-- Shared state. -/
  shared : Shared
  /-- Start-up. -/
  start : StartPhase
  /-- Heartbeat task. -/
  heartbeat : TickPhase
  /-- Update calls, in the order they began. -/
  calls : List Call
  /-- The listener loop runs. -/
  listening : Bool
  /-- The sweeper loop runs. -/
  sweeping : Bool
  /-- Shutdown. -/
  shutdown : ShutdownPhase
  deriving DecidableEq

/-- The node when `from_config` has built and signed the local announcement. -/
def Mesh.init (mac : Mac) (config : ZeroConfConfig) : Except ZeroConfError Mesh := do
  let announcement ← config.localAnnouncement
  let unsigned : Shared :=
    { localAgent := announcement, registry := Registry.new config.ttl, wire := [], taken := 0,
      sections := [] }
  let shared := unsigned.sign mac config.sharedSecretAuth
  return { config
           shared := shared.copied
           start := if config.advertiseLocal then .announce shared.snapshot else .listenOnly
           heartbeat := .notSpawned
           calls := []
           listening := false
           sweeping := false
           shutdown := .idle }

/-- The node that start-up begins with, where it builds one. -/
def Mesh.initial (mac : Mac) (config : ZeroConfConfig)
    (h : (Mesh.init mac config).toOption.isSome=true) : Mesh :=
  (Mesh.init mac config).toOption.get h

/-- The initial node is the one that start-up builds. -/
theorem Mesh.init_initial {mac : Mac} {config : ZeroConfConfig}
    (h : (Mesh.init mac config).toOption.isSome=true) :
    Mesh.init mac config=.ok (Mesh.initial mac config h) :=
  ok_of_toOption (Option.some_get h).symm

/-- Steps of the start-up. -/
inductive StartAction where
  /-- Announce the local service. -/
  | announce (outcome : Except ZeroConfError Unit)
  /-- Start browsing and spawn the listener. -/
  | listen (outcome : Except ZeroConfError Unit)
  /-- Upsert the local agent and spawn the heartbeat and the sweeper. -/
  | upsert (now : Instant)
  deriving DecidableEq

/-- Steps of update calls; a call is named by its position. -/
inductive CallAction where
  /-- A call begins. -/
  | begin (update : LocalUpdate)
  /-- The write section of the mutator. -/
  | mutate (i : ℕ)
  /-- The write section that signs and copies. -/
  | refresh (i : ℕ)
  /-- The copy is announced. -/
  | announce (i : ℕ) (outcome : Except ZeroConfError Unit)
  /-- The copy is upserted. -/
  | upsert (i : ℕ) (now : Instant)
  deriving DecidableEq

/-- Steps of the heartbeat task. -/
inductive TickAction where
  /-- A tick copies the local announcement. -/
  | clone
  /-- The copy is announced. -/
  | announce (outcome : Except ZeroConfError Unit)
  /-- The copy is upserted. -/
  | upsert (now : Instant)
  /-- The loop sees the shutdown signal. -/
  | stop
  deriving DecidableEq

/-- Steps of the listener and sweeper tasks. -/
inductive TaskAction where
  /-- The listener receives an event. -/
  | browse (event : BrowseEvent)
  /-- The listener sees the shutdown signal. -/
  | stopListener
  /-- The sweeper evicts stale records. -/
  | sweep (order : AgentOrder) (now : Instant)
  /-- The sweeper sees the shutdown signal. -/
  | stopSweeper

/-- Steps of the shutdown. -/
inductive ShutdownAction where
  /-- Set the flag and send the signal. -/
  | signal
  /-- Copy the local announcement. -/
  | clone
  /-- Withdraw the local service; a failure is only logged. -/
  | unregister
  /-- Remove the local agent. -/
  | remove
  /-- Join the tasks, all of which have ended. -/
  | join
  deriving DecidableEq

/-- All steps of a node. -/
inductive Action where
  /-- Start-up. -/
  | start (action : StartAction)
  /-- Update calls. -/
  | call (action : CallAction)
  /-- Heartbeat task. -/
  | tick (action : TickAction)
  /-- Listener and sweeper. -/
  | task (action : TaskAction)
  /-- Shutdown. -/
  | shutdown (action : ShutdownAction)

/-- A step of the start-up. A failed listener withdraws the announced service. -/
def Mesh.startStep (m : Mesh) : StartAction → Option Mesh
  | .announce outcome =>
    match m.start with
    | .announce snapshot =>
      some { m with
        shared := m.shared.announce snapshot
        start := match outcome with
          | .ok _ => .listen snapshot
          | .error e => .failed e }
    | _ => none
  | .listen outcome =>
    match m.start,outcome with
    | .listen snapshot,.ok _ => some { m with start := .upsert snapshot, listening := true }
    | .listen snapshot,.error e =>
      some { m with shared := m.shared.unregister snapshot.announcement, start := .failed e }
    | .listenOnly,.ok _ => some { m with start := .running, listening := true, sweeping := true }
    | .listenOnly,.error e => some { m with start := .failed e }
    | _,_ => none
  | .upsert now =>
    match m.start,m.heartbeat with
    | .upsert snapshot,.notSpawned =>
      some { m with shared := m.shared.upsertLocal snapshot now, start := .running
                    heartbeat := .waiting, sweeping := true }
    | _,_ => none

/-- Move a call to another phase. -/
def Mesh.setPhase (m : Mesh) (i : ℕ) (call : Call) (phase : CallPhase) : Mesh :=
  { m with calls := m.calls.set i { call with phase } }

/-- A step of an update call. A failing mutator or announcement ends the call. -/
def Mesh.callStep (mac : Mac) (m : Mesh) : CallAction → Option Mesh
  | .begin update =>
    match m.start with
    | .running => some { m with calls := m.calls ++ [{ update, phase := .mutate }] }
    | _ => none
  | .mutate i =>
    match m.calls[i]? with
    | some call =>
      match call.phase with
      | .mutate =>
        match call.update.apply m.shared.localAgent with
        | .ok _ =>
          some { m.setPhase i call .refresh with
            shared := m.shared.write mac (.update call.update) }
        | .error e => some (m.setPhase i call (.returned (.error e)))
      | _ => none
    | none => none
  | .refresh i =>
    match m.calls[i]? with
    | some call =>
      match call.phase with
      | .refresh =>
        if m.config.advertiseLocal then
          let shared := m.shared.sign mac m.config.sharedSecretAuth
          some { m.setPhase i call (.announce shared.snapshot) with shared := shared.copied }
        else some (m.setPhase i call (.returned (.ok ())))
      | _ => none
    | none => none
  | .announce i outcome =>
    match m.calls[i]? with
    | some call =>
      match call.phase with
      | .announce snapshot =>
        some { m.setPhase i call (match outcome with
            | .ok _ => .upsert snapshot
            | .error e => .returned (.error e)) with
          shared := m.shared.announce snapshot }
      | _ => none
    | none => none
  | .upsert i now =>
    match m.calls[i]? with
    | some call =>
      match call.phase with
      | .upsert snapshot =>
        some { m.setPhase i call (.returned (.ok ())) with
          shared := m.shared.upsertLocal snapshot now }
      | _ => none
    | none => none

/-- Whether the shutdown signal was sent. -/
def Mesh.signalled (m : Mesh) : Bool := m.shutdown ≠ .idle

/-- A step of the heartbeat task. A failed announcement is only logged. -/
def Mesh.tickStep (m : Mesh) : TickAction → Option Mesh
  | .clone =>
    match m.heartbeat with
    | .waiting =>
      some { m with shared := m.shared.copied, heartbeat := .announce m.shared.snapshot }
    | _ => none
  | .announce _ =>
    match m.heartbeat with
    | .announce snapshot =>
      some { m with shared := m.shared.announce snapshot, heartbeat := .upsert snapshot }
    | _ => none
  | .upsert now =>
    match m.heartbeat with
    | .upsert snapshot =>
      some { m with shared := m.shared.upsertLocal snapshot now, heartbeat := .waiting }
    | _ => none
  | .stop =>
    match m.heartbeat with
    | .waiting => if m.signalled then some { m with heartbeat := .stopped } else none
    | _ => none

/-- A step of the listener or the sweeper. -/
def Mesh.taskStep (mac : Mac) (m : Mesh) : TaskAction → Option Mesh
  | .browse event =>
    if m.listening then
      let registry := (Listener.ofConfig m.config).handle mac m.shared.registry event
      some { m with shared := { m.shared with registry }, listening := !event.stops }
    else none
  | .stopListener =>
    if m.listening && m.signalled then some { m with listening := false } else none
  | .sweep order now =>
    if m.sweeping then
      let registry := (m.shared.registry.evictStaleAt order now).2
      some { m with shared := { m.shared with registry } }
    else none
  | .stopSweeper =>
    if m.sweeping && m.signalled then some { m with sweeping := false } else none

/-- A step of the shutdown. A discovery-only node has nothing to withdraw. -/
def Mesh.shutdownStep (m : Mesh) : ShutdownAction → Option Mesh
  | .signal =>
    match m.start,m.shutdown with
    | .running,.idle => some { m with shutdown := .signalled }
    | _,_ => none
  | .clone =>
    match m.shutdown with
    | .signalled =>
      some { m with
        shutdown := if m.config.advertiseLocal then .unregister m.shared.localAgent else .join }
    | _ => none
  | .unregister =>
    match m.shutdown with
    | .unregister announcement =>
      some { m with shared := m.shared.unregister announcement, shutdown := .remove announcement }
    | _ => none
  | .remove =>
    match m.shutdown with
    | .remove announcement =>
      let registry := (m.shared.registry.removeLocal announcement.agentId).2
      some { m with shared := { m.shared with registry }, shutdown := .join }
    | _ => none
  | .join =>
    match m.shutdown,m.heartbeat,m.sweeping,m.listening with
    | .join,.notSpawned,false,false => some { m with shutdown := .returned }
    | .join,.stopped,false,false => some { m with shutdown := .returned }
    | _,_,_,_ => none

/-- A step of a node; a step that its party cannot take is refused. -/
def step (mac : Mac) (m : Mesh) : Action → Option Mesh
  | .start action => m.startStep action
  | .call action => m.callStep mac action
  | .tick action => m.tickStep action
  | .task action => m.taskStep mac action
  | .shutdown action => m.shutdownStep action

/-- Work that a party of a node still has to do for the local announcement. -/
inductive Pending where
  /-- Sign and copy. -/
  | refresh
  /-- Announce a copy, then upsert it. -/
  | announce (snapshot : Snapshot)
  /-- Upsert a copy. -/
  | upsert (snapshot : Snapshot)
  deriving DecidableEq

/-- Work of the start-up. -/
def StartPhase.pending : StartPhase → Option Pending
  | .announce snapshot => some (.announce snapshot)
  | .listen snapshot => some (.upsert snapshot)
  | .upsert snapshot => some (.upsert snapshot)
  | _ => none

/-- Work of the heartbeat task. -/
def TickPhase.pending : TickPhase → Option Pending
  | .announce snapshot => some (.announce snapshot)
  | .upsert snapshot => some (.upsert snapshot)
  | _ => none

/-- Work of an update call after its mutator. -/
def CallPhase.pending : CallPhase → Option Pending
  | .refresh => some .refresh
  | .announce snapshot => some (.announce snapshot)
  | .upsert snapshot => some (.upsert snapshot)
  | _ => none

/-- Work of the update calls. -/
def callWork (calls : List Call) : List Pending := calls.filterMap fun call => call.phase.pending

/-- All pending work of a node. -/
def Mesh.pendings (m : Mesh) : List Pending :=
  m.start.pending.toList ++ m.heartbeat.pending.toList ++ callWork m.calls

/-- No call and no tick is in progress and the start-up is over. -/
def Mesh.Quiescent (m : Mesh) : Prop :=
  m.start=.running ∧ (m.heartbeat=.notSpawned ∨ m.heartbeat=.waiting ∨ m.heartbeat=.stopped) ∧
    ∀ call ∈ m.calls, ∃ result, call.phase=.returned result

instance (phase : CallPhase) : Decidable (∃ result, phase=.returned result) :=
  match phase with
  | .returned result => isTrue ⟨result,rfl⟩
  | .mutate => isFalse fun ⟨_,h⟩ => nomatch h
  | .refresh => isFalse fun ⟨_,h⟩ => nomatch h
  | .announce _ => isFalse fun ⟨_,h⟩ => nomatch h
  | .upsert _ => isFalse fun ⟨_,h⟩ => nomatch h

instance (m : Mesh) : Decidable m.Quiescent := inferInstanceAs (Decidable (_ ∧ _ ∧ _))

/-- A quiescent node has no pending work. -/
theorem Mesh.Quiescent.pendings {m : Mesh} (h : m.Quiescent) : m.pendings=[] := by
  obtain ⟨hstart,hheartbeat,hcalls⟩ := h
  have hcall : callWork m.calls=[] := by
    rw [callWork,List.filterMap_eq_nil_iff]
    intro call hc
    obtain ⟨result,hr⟩ := hcalls call hc
    rw [hr]
    rfl
  have htick : m.heartbeat.pending=none := by
    rcases hheartbeat with h|h|h <;> rw [h] <;> rfl
  rw [Mesh.pendings,hstart,htick,hcall]
  rfl

/-- The snapshot that an action would announce. -/
def announced (m : Mesh) : Action → Option Snapshot
  | .start (.announce _) =>
    match m.start with
    | .announce snapshot => some snapshot
    | _ => none
  | .call (.announce i _) =>
    match m.calls[i]?.map Call.phase with
    | some (.announce snapshot) => some snapshot
    | _ => none
  | .tick (.announce _) =>
    match m.heartbeat with
    | .announce snapshot => some snapshot
    | _ => none
  | _ => none

/-- The snapshot that an action would upsert. -/
def upserted (m : Mesh) : Action → Option Snapshot
  | .start (.upsert _) =>
    match m.start with
    | .upsert snapshot => some snapshot
    | _ => none
  | .call (.upsert i _) =>
    match m.calls[i]?.map Call.phase with
    | some (.upsert snapshot) => some snapshot
    | _ => none
  | .tick (.upsert _) =>
    match m.heartbeat with
    | .upsert snapshot => some snapshot
    | _ => none
  | _ => none

/-- The node of the small configuration as start-up begins with it. -/
def sampleNode : Mesh := Mesh.initial Mac.recorded sampleConfig (by decide +kernel)

/-- The same node with a shared secret. -/
def signingNode : Mesh :=
  Mesh.initial Mac.recorded (withSharedSecretAuth sampleConfig sampleAuth) (by decide +kernel)

/-- A start-up of an advertising node without failures. -/
def startUp : List Action :=
  [.start (.announce (.ok ())),.start (.listen (.ok ())),.start (.upsert 0)]

end MeshPresence.MeshRuntime
