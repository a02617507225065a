import MeshPresence.LocalEntry
import MeshPresence.ValidatedConfig

/-!
# Start-up and shutdown over the resources they hold

Start-up creates the daemon, applies the interface rules, announces, starts the listener
and spawns the other tasks; shutdown withdraws the service, joins the tasks one after the
other and stops the daemon. Both are programs over the record of what is held, and each
call that may fail takes its result from outside. Calls of the asynchronous runtime that
can panic are recorded with their arguments. The steps that other parties interleave are
those of the running mesh.
-/

namespace MeshPresence.MeshStartup

open FallibleSteps GuardedRuns AgentTypes AgentConfig AgentWire MeshRuntime LocalEntry
open ValidatedConfig

/-- The background tasks of a node. -/
inductive BackgroundTask where
  /-- Re-announces the local agent. -/
  | heartbeat
  /-- Evicts stale records. -/
  | sweeper
  /-- Handles browse events. -/
  | listener
  deriving DecidableEq

/-- The mDNS daemon of a node. -/
inductive Daemon where
  /-- Not created. -/
  | absent
  /-- Created and not shut down. -/
  | running
  /-- Shut down. -/
  | stopped
  deriving DecidableEq

/-- Calls of the asynchronous runtime that have a precondition. -/
inductive RuntimeCall where
  /-- `broadcast::channel`. -/
  | channel (capacity : UInt64)
  /-- `time::interval`. -/
  | interval (period : Duration)
  deriving DecidableEq

/-- The largest `usize` of a 64-bit target. -/
def usizeMax : ℕ := 2^64-1

/-- The call panics. -/
def RuntimeCall.panics : RuntimeCall → Bool
  | .channel capacity => capacity.toNat=0 || capacity.toNat>usizeMax/2
  | .interval period => period=0

/-- What a node holds, and the history of its tasks and runtime calls. -/
structure Resources where
  /-- The mDNS daemon. -/
  daemon : Daemon
  /-- Instance names registered with the daemon. -/
  registered : List String
  /-- Tasks that were started. -/
  started : List BackgroundTask
  /-- Tasks whose end was awaited. -/
  joined : List BackgroundTask
  /-- Runtime calls made so far, oldest first. -/
  runtimeCalls : List RuntimeCall
  deriving DecidableEq

/-- Nothing is held yet. -/
def Resources.fresh : Resources where
  daemon := .absent
  registered := []
  started := []
  joined := []
  runtimeCalls := []

/-- How the calls that may fail turn out. -/
structure Outcomes where
  /-- Creation of the daemon. -/
  newDaemon : Except ZeroConfError Unit
  /-- Inclusion rules, by position. -/
  enableInterface : ℕ → Except ZeroConfError Unit
  /-- Exclusion rules, by position. -/
  disableInterface : ℕ → Except ZeroConfError Unit
  /-- Construction and registration of the local service. -/
  register : Except ZeroConfError Unit
  /-- Browsing for the service type. -/
  browse : Except ZeroConfError Unit
  /-- The daemon withdraws the service whose name it is given. A request that fails or names no
  service that it holds is ignored. -/
  unregister : Bool
  /-- Ends of the tasks; a panic is an error of its join. -/
  taskEnd : BackgroundTask → Except ZeroConfError Unit

/-- Why start-up does not return a mesh. -/
inductive Halt where
  /-- It returns an error. -/
  | error (error : ZeroConfError)
  /-- It panics. -/
  | panicked
  deriving DecidableEq

/-- A program of the start-up. -/
abbrev Startup := EStateM Halt Resources

/-- A call that may fail. -/
def attempt {α : Type} (outcome : Except ZeroConfError α) : Startup α :=
  match outcome with
  | .ok value => pure value
  | .error e => throw (.error e)

/-- A runtime call by the start-up itself. -/
def callRuntime (call : RuntimeCall) : Startup Unit := do
  modify fun r => { r with runtimeCalls := r.runtimeCalls ++ [call] }
  if call.panics then
    throw .panicked

/-- Create the daemon. -/
def newDaemon (outcomes : Outcomes) : Startup Unit := do
  attempt outcomes.newDaemon
  modify fun r => { r with daemon := .running }

/-- Apply interface rules one after the other. -/
def applyRules (outcome : ℕ → Except ZeroConfError Unit) : List NetworkInterface → Startup Unit
  | [] => pure ()
  | _ :: rest => do
    attempt (outcome 0)
    applyRules (fun i => outcome (i+1)) rest

/-- Register the local service. -/
def announce (outcomes : Outcomes) (announcement : AgentAnnouncement) : Startup Unit := do
  attempt outcomes.register
  modify fun r => { r with registered := r.registered ++ [announcement.instanceName] }

/-- The daemon is asked to withdraw the service of an announcement. -/
def Resources.withdraw (r : Resources) (outcomes : Outcomes) (announcement : AgentAnnouncement) :
    Resources :=
  if outcomes.unregister then
    { r with registered := r.registered.filter fun name => name ≠ announcement.instanceName }
  else r

/-- Asking for a withdrawal leaves the daemon running. -/
@[simp] theorem Resources.withdraw_daemon (r : Resources) (outcomes : Outcomes)
    (announcement : AgentAnnouncement) : (r.withdraw outcomes announcement).daemon=r.daemon := by
  rw [Resources.withdraw]
  split <;> rfl

/-- A service is held after a withdrawal when it was and was not the one that was found. -/
theorem Resources.mem_withdraw {r : Resources} {outcomes : Outcomes}
    {announcement : AgentAnnouncement} {name : String} :
    name ∈ (r.withdraw outcomes announcement).registered ↔
      name ∈ r.registered ∧ (outcomes.unregister=true → name ≠ announcement.instanceName) := by
  rw [Resources.withdraw]
  split
  · next hfound => simp only [List.mem_filter,decide_eq_true_eq,hfound,forall_const]
  · next hmissed => exact (and_iff_left fun hfound => absurd hfound hmissed).symm

/-- The daemon is shut down, and withdraws the services that it still holds. -/
def Resources.stopDaemon (r : Resources) : Resources :=
  { r with daemon := .stopped, registered := [] }

/-- Start browsing and spawn the listener. -/
def spawnListener (outcomes : Outcomes) : Startup BackgroundTask := do
  attempt outcomes.browse
  modify fun r => { r with started := r.started ++ [.listener] }
  return .listener

/-- Announce and start the listener; a failed listener takes the announcement back. -/
def announceAndStartListener (outcomes : Outcomes) (announcement : AgentAnnouncement) :
    Startup BackgroundTask := do
  announce outcomes announcement
  tryCatch (spawnListener outcomes) fun halt => do
    modify fun r => (r.withdraw outcomes announcement).stopDaemon
    throw halt

/-- Spawn a task that begins by creating its interval. A panic there ends the task only. -/
def spawnPeriodic (task : BackgroundTask) (period : Duration) : Startup BackgroundTask := do
  modify fun r => { r with started := r.started ++ [task]
                           runtimeCalls := r.runtimeCalls ++ [.interval period] }
  return task

/-- Spawn the heartbeat. -/
def spawnHeartbeatTask (heartbeatInterval : Duration) : Startup BackgroundTask :=
  spawnPeriodic .heartbeat heartbeatInterval

/-- Spawn the sweeper. -/
def spawnSweeperTask (sweepInterval : Duration) : Startup BackgroundTask :=
  spawnPeriodic .sweeper sweepInterval

/-- A node as start-up returns it, with a slot for the handle of each task. -/
structure ZeroConfMesh where
  /-- Immutable configuration. -/
  config : ZeroConfConfig
  /-- Local announcement. -/
  localAgent : AgentAnnouncement
  /-- Handle of the heartbeat, on advertising nodes. -/
  heartbeatTask : Option BackgroundTask
  /-- Handle of the sweeper. -/
  sweeperTask : Option BackgroundTask
  /-- Handle of the listener. -/
  listenerTask : Option BackgroundTask
  /-- Shutdown was called. -/
  shutdownRequested : Bool
  deriving DecidableEq

/-- The local announcement as start-up signs it. -/
def signedAnnouncement (mac : Mac) (config : ZeroConfConfig) (announcement : AgentAnnouncement) :
    AgentAnnouncement :=
  match config.sharedSecretAuth with
  | some auth => applySharedSecretAuth mac announcement auth
  | none => announcement

/-- Start a node from a configuration. -/
def fromConfig (mac : Mac) (outcomes : Outcomes) (config : ZeroConfConfig) :
    Startup ZeroConfMesh := do
  callRuntime (.channel config.eventCapacity)
  let announcement ← attempt config.localAnnouncement
  let localAgent := signedAnnouncement mac config announcement
  newDaemon outcomes
  applyRules outcomes.enableInterface config.enabledInterfaces
  applyRules outcomes.disableInterface config.disabledInterfaces
  let listenerTask ←
    if config.advertiseLocal then announceAndStartListener outcomes localAgent
    else spawnListener outcomes
  let heartbeatTask ←
    if config.advertiseLocal then some <$> spawnHeartbeatTask config.heartbeatInterval
    else pure none
  let sweeperTask ← spawnSweeperTask config.heartbeatInterval
  return { config, localAgent, heartbeatTask, sweeperTask := some sweeperTask
           listenerTask := some listenerTask, shutdownRequested := false }

/-- A node in operation: the handles and what is held. -/
structure Live where
  /-- The node. -/
  mesh : ZeroConfMesh
  /-- What it holds. -/
  resources : Resources
  deriving DecidableEq

/-- A program of the shutdown. -/
abbrev Stopping := EStateM ZeroConfError Live

/-- The end of the task of a handle was awaited. -/
def Resources.join (r : Resources) (handle : Option BackgroundTask) : Resources :=
  { r with joined := r.joined ++ handle.toList }

/-- Take the handle out of a slot and await its task, if there is one. -/
def joinTask (outcomes : Outcomes) (slot : ZeroConfMesh → Option BackgroundTask)
    (clear : ZeroConfMesh → ZeroConfMesh) : Stopping Unit := do
  let live ← get
  set ({ mesh := clear live.mesh, resources := live.resources.join (slot live.mesh) } : Live)
  match slot live.mesh with
  | some task => MonadExcept.ofExcept (outcomes.taskEnd task)
  | none => pure ()

/-- The slot of the heartbeat is emptied. -/
def ZeroConfMesh.takeHeartbeat (mesh : ZeroConfMesh) : ZeroConfMesh :=
  { mesh with heartbeatTask := none }

/-- The slot of the sweeper is emptied. -/
def ZeroConfMesh.takeSweeper (mesh : ZeroConfMesh) : ZeroConfMesh :=
  { mesh with sweeperTask := none }

/-- The slot of the listener is emptied. -/
def ZeroConfMesh.takeListener (mesh : ZeroConfMesh) : ZeroConfMesh :=
  { mesh with listenerTask := none }

/-- Shutdown was called, and an advertising node has asked for the withdrawal of its service. -/
def Live.request (outcomes : Outcomes) (live : Live) : Live where
  mesh := { live.mesh with shutdownRequested := true }
  resources := if live.mesh.config.advertiseLocal then
      live.resources.withdraw outcomes live.mesh.localAgent
    else live.resources

/-- Withdraw the local service, join the tasks and stop the daemon; the first task that
panicked ends the shutdown with an error. -/
def shutdown (outcomes : Outcomes) : Stopping Unit := do
  let live ← get
  if live.mesh.shutdownRequested then
    return ()
  set (live.request outcomes)
  joinTask outcomes ZeroConfMesh.heartbeatTask ZeroConfMesh.takeHeartbeat
  joinTask outcomes ZeroConfMesh.sweeperTask ZeroConfMesh.takeSweeper
  joinTask outcomes ZeroConfMesh.listenerTask ZeroConfMesh.takeListener
  modify fun live => { live with resources := live.resources.stopDaemon }

section Startup

variable {mac : Mac} {outcomes : Outcomes} {config : ZeroConfConfig}

/-- Every rule of a list is accepted. -/
def Accepted (outcome : ℕ → Except ZeroConfError Unit) (rules : List NetworkInterface) : Prop :=
  ∀ i < rules.length, (outcome i).isOk=true

/-- All interface rules of the configuration are accepted. -/
def RulesAccepted (outcomes : Outcomes) (config : ZeroConfConfig) : Prop :=
  Accepted outcomes.enableInterface config.enabledInterfaces ∧
    Accepted outcomes.disableInterface config.disabledInterfaces

/-- Start-up gets as far as creating the daemon. -/
def DaemonCreated (outcomes : Outcomes) (config : ZeroConfConfig) : Prop :=
  (RuntimeCall.channel config.eventCapacity).panics=false ∧ outcomes.newDaemon.isOk=true

/-- The result of a call that may fail. -/
theorem isOk_cases (outcome : Except ZeroConfError Unit) :
    (outcome.isOk=true ∧ outcome=.ok ()) ∨ (outcome.isOk=false ∧ ∃ e, outcome=.error e) := by
  cases outcome with
  | ok value => exact Or.inl ⟨rfl,rfl⟩
  | error e => exact Or.inr ⟨rfl,e,rfl⟩

/-- A call that succeeded. -/
theorem eq_ok {outcome : Except ZeroConfError Unit} (h : outcome.isOk=true) : outcome=.ok () := by
  rcases isOk_cases outcome with ⟨-,hok⟩|⟨hfail,-⟩
  · exact hok
  · cases hfail.symm.trans h

/-- A call that failed. -/
theorem eq_error {outcome : Except ZeroConfError Unit} (h : outcome.isOk=false) :
    ∃ e, outcome=.error e := by
  rcases isOk_cases outcome with ⟨hok,-⟩|⟨-,herror⟩
  · cases hok.symm.trans h
  · exact herror

/-- Rules are applied until the first refusal and leave nothing behind. -/
theorem applyRules_cases (outcome : ℕ → Except ZeroConfError Unit) (rules : List NetworkInterface)
    (r : Resources) :
    (Accepted outcome rules ∧ (applyRules outcome rules).run r=.ok () r) ∨
      (¬Accepted outcome rules ∧ ∃ e, (applyRules outcome rules).run r=.error (.error e) r) := by
  induction rules generalizing outcome with
  | nil => exact Or.inl ⟨fun i hi => absurd hi (Nat.not_lt_zero i),rfl⟩
  | cons rule rest ih =>
    have hsplit : Accepted outcome (rule :: rest) ↔
        (outcome 0).isOk=true ∧ Accepted (fun i => outcome (i+1)) rest := by
      constructor
      · exact fun h => ⟨h 0 (Nat.succ_pos _),fun i hi => h (i+1) (Nat.succ_lt_succ hi)⟩
      · rintro ⟨hfirst,hrest⟩ i hi
        cases i with
        | zero => exact hfirst
        | succ i => exact hrest i (Nat.lt_of_succ_lt_succ hi)
    rw [hsplit,applyRules]
    rcases isOk_cases (outcome 0) with ⟨hok,hfirst⟩|⟨hfail,e,hfirst⟩
    · have hrun : (attempt (outcome 0)).run r=.ok () r := by rw [hfirst]; rfl
      rw [run_bind_ok hrun]
      rcases ih (fun i => outcome (i+1)) with ⟨hrest,h⟩|⟨hrest,h⟩
      · exact Or.inl ⟨⟨hok,hrest⟩,h⟩
      · exact Or.inr ⟨fun hall => hrest hall.2,h⟩
    · have hrun : (attempt (outcome 0)).run r=.error (.error e) r := by rw [hfirst]; rfl
      rw [run_bind_error hrun]
      refine Or.inr ⟨fun hall => ?_,e,rfl⟩
      rw [hfail] at hall
      cases hall.1

/-- What is held before the daemon is created. -/
def beforeDaemon (config : ZeroConfConfig) : Resources :=
  { Resources.fresh with runtimeCalls := [.channel config.eventCapacity] }

/-- What is held while only the daemon runs. -/
def daemonOnly (config : ZeroConfConfig) : Resources :=
  { beforeDaemon config with daemon := .running }

/-- The tasks of a node. -/
def backgroundTasks (config : ZeroConfConfig) : List BackgroundTask :=
  if config.advertiseLocal then [.listener,.heartbeat,.sweeper] else [.listener,.sweeper]

/-- What a started node holds. -/
def holdings (config : ZeroConfConfig) (localAgent : AgentAnnouncement) : Resources where
  daemon := .running
  registered := if config.advertiseLocal then [localAgent.instanceName] else []
  started := backgroundTasks config
  joined := []
  runtimeCalls := .channel config.eventCapacity ::
    (if config.advertiseLocal then [.interval config.heartbeatInterval] else []) ++
      [.interval config.heartbeatInterval]

/-- A node as start-up returns it. -/
def startedMesh (config : ZeroConfConfig) (localAgent : AgentAnnouncement) : ZeroConfMesh where
  config := config
  localAgent := localAgent
  heartbeatTask := if config.advertiseLocal then some .heartbeat else none
  sweeperTask := some .sweeper
  listenerTask := some .listener
  shutdownRequested := false

/-- The ways in which start-up ends, and what is held then. -/
inductive StartsAs (mac : Mac) (outcomes : Outcomes) (config : ZeroConfConfig) :
    EStateM.Result Halt Resources ZeroConfMesh → Prop where
  /-- The event channel cannot be created. -/
  | panicked (capacity : (RuntimeCall.channel config.eventCapacity).panics=true) :
      StartsAs mac outcomes config (.error .panicked (beforeDaemon config))
  /-- The daemon cannot be created. -/
  | noDaemon (e : ZeroConfError)
      (capacity : (RuntimeCall.channel config.eventCapacity).panics=false)
      (refused : outcomes.newDaemon.isOk=false) :
      StartsAs mac outcomes config (.error (.error e) (beforeDaemon config))
  /-- An interface rule or the announcement is refused. -/
  | refused (e : ZeroConfError) (created : DaemonCreated outcomes config)
      (refused : ¬(RulesAccepted outcomes config ∧
        (config.advertiseLocal=true → outcomes.register.isOk=true))) :
      StartsAs mac outcomes config (.error (.error e) (daemonOnly config))
  /-- The listener of an advertising node cannot browse. -/
  | withdrawn (e : ZeroConfError) (created : DaemonCreated outcomes config)
      (rules : RulesAccepted outcomes config) (advertises : config.advertiseLocal=true)
      (registers : outcomes.register.isOk=true) (refused : outcomes.browse.isOk=false) :
      StartsAs mac outcomes config (.error (.error e) (daemonOnly config).stopDaemon)
  /-- The listener of a discovery-only node cannot browse. -/
  | abandoned (e : ZeroConfError) (created : DaemonCreated outcomes config)
      (rules : RulesAccepted outcomes config) (discovery : config.advertiseLocal=false)
      (refused : outcomes.browse.isOk=false) :
      StartsAs mac outcomes config (.error (.error e) (daemonOnly config))
  /-- The node runs. -/
  | started (built : AgentAnnouncement) (hbuilt : config.localAnnouncement=.ok built)
      (created : DaemonCreated outcomes config)
      (rules : RulesAccepted outcomes config)
      (registers : config.advertiseLocal=true → outcomes.register.isOk=true)
      (browses : outcomes.browse.isOk=true) :
      StartsAs mac outcomes config (.ok (startedMesh config (signedAnnouncement mac config built))
        (holdings config (signedAnnouncement mac config built)))

/-- A refused announcement ends the start of the listener. -/
theorem announceAndStartListener_refused {e : ZeroConfError} (h : outcomes.register=.error e)
    (announcement : AgentAnnouncement) (r : Resources) :
    (announceAndStartListener outcomes announcement).run r=.error (.error e) r := by
  have hrun : (announce outcomes announcement).run r=.error (.error e) r := by
    rw [announce,h]
    rfl
  rw [announceAndStartListener,run_bind_error hrun]

/-- An accepted registration is recorded. -/
theorem announce_registered (h : outcomes.register=.ok ()) (announcement : AgentAnnouncement)
    (r : Resources) : (announce outcomes announcement).run r=
      .ok () { r with registered := r.registered ++ [announcement.instanceName] } := by
  rw [announce,h]
  rfl

/-- A refused browse takes the announcement back and stops the daemon. -/
theorem announceAndStartListener_withdrawn {e : ZeroConfError} (h : outcomes.register=.ok ())
    (hbrowse : outcomes.browse=.error e) (announcement : AgentAnnouncement) (r : Resources) :
    (announceAndStartListener outcomes announcement).run r=.error (.error e) r.stopDaemon := by
  have hback : (({ r with registered := r.registered ++ [announcement.instanceName] } :
      Resources).withdraw outcomes announcement).stopDaemon=r.stopDaemon := by
    rw [Resources.withdraw]
    split <;> rfl
  rw [announceAndStartListener,run_bind_ok (announce_registered h announcement r),spawnListener,
    hbrowse]
  conv_rhs => rw [←hback]
  rfl

/-- The listener of an announced node. -/
theorem announceAndStartListener_started (h : outcomes.register=.ok ())
    (hbrowse : outcomes.browse=.ok ()) (announcement : AgentAnnouncement) (r : Resources) :
    (announceAndStartListener outcomes announcement).run r=.ok .listener
      { r with registered := r.registered ++ [announcement.instanceName]
               started := r.started ++ [.listener] } := by
  rw [announceAndStartListener,run_bind_ok (announce_registered h announcement r),spawnListener,
    hbrowse]
  rfl

/-- Start-up ends in one of these ways. -/
theorem fromConfig_startsAs (mac : Mac) (outcomes : Outcomes) (hvalid : Validated config) :
    StartsAs mac outcomes config ((fromConfig mac outcomes config).run .fresh) := by
  obtain ⟨a,ha,-⟩ := localAnnouncement_describes (sound_of_validated hvalid)
  rw [fromConfig]
  cases hcapacity : (RuntimeCall.channel config.eventCapacity).panics with
  | true =>
    have hrun : (callRuntime (.channel config.eventCapacity)).run .fresh=
        .error .panicked (beforeDaemon config) := by
      simp only [callRuntime,hcapacity,if_true]
      rfl
    rw [run_bind_error hrun]
    exact .panicked hcapacity
  | false =>
    have hrun : (callRuntime (.channel config.eventCapacity)).run .fresh=
        .ok () (beforeDaemon config) := by
      simp only [callRuntime,hcapacity]
      rfl
    have hannouncement : (attempt config.localAnnouncement).run (beforeDaemon config)=
        .ok a (beforeDaemon config) := by
      rw [ha]
      rfl
    rw [run_bind_ok hrun,run_bind_ok hannouncement]
    rcases isOk_cases outcomes.newDaemon with ⟨hok,hdaemon⟩|⟨hfail,e,hdaemon⟩
    swap
    · have hrun : (newDaemon outcomes).run (beforeDaemon config)=
          .error (.error e) (beforeDaemon config) := by
        rw [newDaemon,hdaemon]
        rfl
      rw [run_bind_error hrun]
      exact .noDaemon e hcapacity hfail
    have hcreated : DaemonCreated outcomes config := ⟨hcapacity,hok⟩
    have hrun : (newDaemon outcomes).run (beforeDaemon config)=.ok () (daemonOnly config) := by
      rw [newDaemon,hdaemon]
      rfl
    rw [run_bind_ok hrun]
    rcases applyRules_cases outcomes.enableInterface config.enabledInterfaces (daemonOnly config)
      with ⟨henable,hrun⟩|⟨henable,e,hrun⟩
    swap
    · rw [run_bind_error hrun]
      exact .refused e hcreated fun h => henable h.1.1
    rw [run_bind_ok hrun]
    rcases applyRules_cases outcomes.disableInterface config.disabledInterfaces (daemonOnly config)
      with ⟨hdisable,hrun⟩|⟨hdisable,e,hrun⟩
    swap
    · rw [run_bind_error hrun]
      exact .refused e hcreated fun h => hdisable h.1.2
    rw [run_bind_ok hrun]
    have hrules : RulesAccepted outcomes config := ⟨henable,hdisable⟩
    cases hadvertise : config.advertiseLocal with
    | true =>
      rw [if_pos rfl]
      rcases isOk_cases outcomes.register with ⟨hregisters,hregister⟩|⟨hrefused,e,hregister⟩
      swap
      · rw [run_bind_error (announceAndStartListener_refused hregister _ _)]
        refine .refused e hcreated fun h => ?_
        have hok := h.2 hadvertise
        rw [hrefused] at hok
        cases hok
      rcases isOk_cases outcomes.browse with ⟨hbrowses,hbrowse⟩|⟨hrefused,e,hbrowse⟩
      swap
      · rw [run_bind_error (announceAndStartListener_withdrawn hregister hbrowse _ _)]
        exact .withdrawn e hcreated hrules hadvertise hregisters hrefused
      rw [run_bind_ok (announceAndStartListener_started hregister hbrowse _ _)]
      have hstarted : StartsAs mac outcomes config _ :=
        .started a ha hcreated hrules (fun _ => hregisters) hbrowses
      rw [startedMesh,holdings,backgroundTasks,hadvertise] at hstarted
      exact hstarted
    | false =>
      rcases isOk_cases outcomes.browse with ⟨hbrowses,hbrowse⟩|⟨hrefused,e,hbrowse⟩
      swap
      · have hrun : (spawnListener outcomes).run (daemonOnly config)=
            .error (.error e) (daemonOnly config) := by
          rw [spawnListener,hbrowse]
          rfl
        rw [if_neg Bool.false_ne_true,run_bind_error hrun]
        exact .abandoned e hcreated hrules hadvertise hrefused
      have hrun : (spawnListener outcomes).run (daemonOnly config)=
          .ok .listener { daemonOnly config with started := [.listener] } := by
        rw [spawnListener,hbrowse]
        rfl
      rw [if_neg Bool.false_ne_true,run_bind_ok hrun]
      have hsilent : config.advertiseLocal=true → outcomes.register.isOk=true := by
        intro h
        cases hadvertise.symm.trans h
      have hstarted : StartsAs mac outcomes config _ :=
        .started a ha hcreated hrules hsilent hbrowses
      rw [startedMesh,holdings,backgroundTasks,hadvertise] at hstarted
      exact hstarted

/-- The steps of the start-up in the running mesh. -/
def startActions (outcomes : Outcomes) (config : ZeroConfConfig) (now : Instant) : List Action :=
  if config.advertiseLocal then
    .start (.announce outcomes.register) ::
      if outcomes.register.isOk then
        .start (.listen outcomes.browse) ::
          if outcomes.browse.isOk then [.start (.upsert now)] else []
      else []
  else [.start (.listen outcomes.browse)]

/-- A started node as the running mesh has it. -/
structure Agrees (mesh : ZeroConfMesh) (r : Resources) (m : Mesh) : Prop where
  /-- Start-up is over. -/
  start : m.start=.running
  /-- The local announcement is the same. -/
  localAgent : m.shared.localAgent=mesh.localAgent
  /-- The heartbeat was spawned where it was started. -/
  heartbeat : m.heartbeat=if .heartbeat ∈ r.started then .waiting else .notSpawned
  /-- The listener runs. -/
  listening : m.listening=decide (.listener ∈ r.started)
  /-- The sweeper runs. -/
  sweeping : m.sweeping=decide (.sweeper ∈ r.started)

/-- Both start-ups sign alike. -/
theorem localAgent_signed (mac : Mac) (config : ZeroConfConfig) (a : AgentAnnouncement) :
    ((unsigned config a).sign mac config.sharedSecretAuth).localAgent=
      signedAnnouncement mac config a := by
  rw [signedAnnouncement]
  cases config.sharedSecretAuth <;> rfl

/-- Once the daemon is created and the interface rules are accepted, start-up does what the
steps of the running mesh do: both fail, or both leave the same node. -/
theorem fromConfig_runtime (hvalid : Validated config) (hcreated : DaemonCreated outcomes config)
    (hrules : RulesAccepted outcomes config) {m₀ : Mesh} (h₀ : Mesh.init mac config=.ok m₀)
    (now : Instant) :
    ∃ m, exec (step mac) m₀ (startActions outcomes config now)=some m ∧
      match (fromConfig mac outcomes config).run .fresh with
      | .ok mesh r => Agrees mesh r m
      | .error _ _ => ∃ e, m.start=.failed e := by
  obtain ⟨a,ha,rfl⟩ := init_ok h₀
  have hstarts := fromConfig_startsAs mac outcomes hvalid
  generalize (fromConfig mac outcomes config).run .fresh=result at hstarts
  cases hstarts with
  | panicked capacity => cases capacity.symm.trans hcreated.1
  | noDaemon e capacity refused => cases refused.symm.trans hcreated.2
  | refused e created refused =>
    have hadvertise : config.advertiseLocal=true := by
      by_contra h
      exact refused ⟨hrules,fun h' => absurd h' h⟩
    have hregister : outcomes.register.isOk=false := by
      by_contra h
      exact refused ⟨hrules,fun _ => Bool.eq_true_of_not_eq_false h⟩
    obtain ⟨e,he⟩ := eq_error hregister
    rw [startActions,hadvertise,if_pos rfl,he]
    exact ⟨_,rfl,e,rfl⟩
  | withdrawn e created rules advertises registers refused =>
    obtain ⟨e',he⟩ := eq_error refused
    rw [startActions,advertises,if_pos rfl,eq_ok registers,he]
    exact ⟨_,rfl,e',rfl⟩
  | abandoned e created rules discovery refused =>
    obtain ⟨e',he⟩ := eq_error refused
    rw [startActions,discovery,if_neg Bool.false_ne_true,he]
    exact ⟨_,rfl,e',rfl⟩
  | started built hbuilt created rules registers browses =>
    obtain rfl : built=a := Except.ok.inj (hbuilt.symm.trans ha)
    have hsigned := localAgent_signed mac config built
    cases hadvertise : config.advertiseLocal with
    | true =>
      rw [startActions,hadvertise,if_pos rfl,eq_ok (registers hadvertise),eq_ok browses]
      refine ⟨_,rfl,rfl,hsigned,?_,?_,?_⟩ <;> rw [holdings,backgroundTasks,hadvertise] <;> rfl
    | false =>
      rw [startActions,hadvertise,if_neg Bool.false_ne_true,eq_ok browses]
      refine ⟨_,rfl,rfl,hsigned,?_,?_,?_⟩ <;> rw [holdings,backgroundTasks,hadvertise] <;> rfl

end Startup

/-- No call fails and every task ends normally. -/
def smooth : Outcomes where
  newDaemon := .ok ()
  enableInterface _ := .ok ()
  disableInterface _ := .ok ()
  register := .ok ()
  browse := .ok ()
  unregister := true
  taskEnd _ := .ok ()

/-- Start-up and the tasks it spawns make no runtime call that panics. -/
def PanicFree (mac : Mac) (outcomes : Outcomes) (config : ZeroConfConfig) : Prop :=
  ∀ call ∈ (leftBy ((fromConfig mac outcomes config).run .fresh)).runtimeCalls, call.panics=false

/-- A channel of an accepted capacity panics exactly above half of the largest `usize`. -/
theorem channel_panics_iff {config : ZeroConfConfig} (hvalid : Validated config) :
    (RuntimeCall.channel config.eventCapacity).panics=false ↔
      config.eventCapacity.toNat≤usizeMax/2 := by
  have hpositive : config.eventCapacity.toNat ≠ 0 := fun h =>
    (sound_of_validated hvalid).eventCapacity (UInt64.toNat_inj.mp h)
  rw [RuntimeCall.panics,Bool.or_eq_false_iff,decide_eq_false_iff_not,decide_eq_false_iff_not]
  omega

/-- Start-up gets to its end. -/
def Starts (outcomes : Outcomes) (config : ZeroConfConfig) : Prop :=
  DaemonCreated outcomes config ∧ RulesAccepted outcomes config ∧
    (config.advertiseLocal=true → outcomes.register.isOk=true) ∧ outcomes.browse.isOk=true

/-- The runtime calls of a started node panic exactly when those of the channel or of an
interval do. -/
theorem holdings_panicFree (config : ZeroConfConfig) (localAgent : AgentAnnouncement) :
    (∀ call ∈ (holdings config localAgent).runtimeCalls, call.panics=false) ↔
      (RuntimeCall.channel config.eventCapacity).panics=false ∧ config.heartbeatInterval ≠ 0 := by
  have hinterval : (RuntimeCall.interval config.heartbeatInterval).panics=false ↔
      config.heartbeatInterval ≠ 0 := decide_eq_false_iff_not
  rw [holdings,←hinterval]
  cases config.advertiseLocal <;> simp

/-- Under one pattern of failures, the channel is always created, and the intervals are when
start-up gets to its end. -/
theorem panicFree_cases (mac : Mac) (outcomes : Outcomes) {config : ZeroConfConfig}
    (hvalid : Validated config) :
    PanicFree mac outcomes config ↔
      (RuntimeCall.channel config.eventCapacity).panics=false ∧
        (Starts outcomes config → config.heartbeatInterval ≠ 0) := by
  have honly : ∀ r : Resources, r.runtimeCalls=[.channel config.eventCapacity] →
      ((∀ call ∈ r.runtimeCalls, call.panics=false) ↔
        (RuntimeCall.channel config.eventCapacity).panics=false) := by
    intro r hr
    rw [hr,List.forall_mem_singleton]
  have hstarts := fromConfig_startsAs mac outcomes hvalid
  rw [PanicFree]
  generalize (fromConfig mac outcomes config).run .fresh=result at hstarts
  cases hstarts with
  | panicked capacity =>
    refine (honly _ rfl).trans (and_iff_left fun h => ?_).symm
    cases capacity.symm.trans h.1.1
  | noDaemon e capacity refused =>
    refine (honly _ rfl).trans (and_iff_left fun h => ?_).symm
    cases refused.symm.trans h.1.2
  | refused e created refused =>
    exact (honly _ rfl).trans (and_iff_left fun h => absurd ⟨h.2.1,h.2.2.1⟩ refused).symm
  | withdrawn e created rules advertises registers refused =>
    refine (honly _ rfl).trans (and_iff_left fun h => ?_).symm
    cases refused.symm.trans h.2.2.2
  | abandoned e created rules discovery refused =>
    refine (honly _ rfl).trans (and_iff_left fun h => ?_).symm
    cases refused.symm.trans h.2.2.2
  | started built hbuilt created rules registers browses =>
    refine (holdings_panicFree config _).trans (and_congr_right fun _ => ?_)
    exact ⟨fun h _ => h,fun h => h ⟨created,rules,registers,browses⟩⟩

/-- For every validated configuration: under no pattern of failures does start-up reach a
panicking runtime call exactly when the heartbeat interval is not zero and the event capacity
is at most half of the largest `usize`. -/
theorem panicFree_iff (mac : Mac) {config : ZeroConfConfig} (hvalid : Validated config) :
    (∀ outcomes, PanicFree mac outcomes config) ↔
      config.heartbeatInterval ≠ 0 ∧ config.eventCapacity.toNat≤usizeMax/2 := by
  rw [←channel_panics_iff hvalid]
  constructor
  · intro h
    obtain ⟨hchannel,hinterval⟩ := (panicFree_cases mac smooth hvalid).mp (h smooth)
    have hstarts : Starts smooth config :=
      ⟨⟨hchannel,rfl⟩,⟨fun _ _ => rfl,fun _ _ => rfl⟩,fun _ => rfl,rfl⟩
    exact ⟨hinterval hstarts,hchannel⟩
  · rintro ⟨hinterval,hchannel⟩ outcomes
    exact (panicFree_cases mac outcomes hvalid).mpr ⟨hchannel,fun _ => hinterval⟩

/-- The small configuration starts without a panic, when nothing fails and when the browse is
refused. -/
theorem panicFree_iff_sample :
    PanicFree Mac.recorded smooth sampleConfig ∧
      PanicFree Mac.recorded { smooth with browse := .error (.mdns "browse refused") }
        sampleConfig := by
  have h := (panicFree_iff Mac.recorded sampleConfig_validated).mpr (by decide +kernel)
  exact ⟨h _,h _⟩

/-- The constructor accepts a heartbeat interval of zero, with which both periodic tasks
panic, and an event capacity of half the range, with which start-up itself panics. -/
theorem accepted_config_panics :
    ZeroConfConfig.new "agent-local" "coder" "alpha" "main" 8080 5353 "_agent-mesh._tcp.local."
      .idle 0 1 256 [] ∅=.ok { sampleConfig with heartbeatInterval := 0, ttl := 1 } ∧
    ZeroConfConfig.new "agent-local" "coder" "alpha" "main" 8080 5353 "_agent-mesh._tcp.local."
      .idle 30000000000 120000000000 0x8000000000000000 [] ∅=
        .ok { sampleConfig with eventCapacity := 0x8000000000000000 } ∧
    (leftBy ((fromConfig Mac.recorded smooth
      { sampleConfig with heartbeatInterval := 0, ttl := 1 }).run .fresh)).runtimeCalls=
        [.channel 256,.interval 0,.interval 0] ∧
    (RuntimeCall.interval 0).panics=true ∧
    (RuntimeCall.channel 0x8000000000000000).panics=true ∧
    RuntimeCall.channel 0x8000000000000000 ∈ (leftBy ((fromConfig Mac.recorded smooth
      { sampleConfig with eventCapacity := 0x8000000000000000 }).run .fresh)).runtimeCalls := by
  decide +kernel

end MeshPresence.MeshStartup
