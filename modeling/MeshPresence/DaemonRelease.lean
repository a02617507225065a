import MeshPresence.MeshStartup

/-!
# Whether the daemon outlives the node

A failed start-up shuts the daemon down only after a failed browse of an advertising node,
and a shutdown stops at the first task that panicked, before it stops the daemon. The daemon
therefore never outlives the node exactly when every failure is one of those that the code
cleans up after.
-/

namespace MeshPresence.DaemonRelease

open FallibleSteps AgentTypes AgentConfig AgentWire MeshStartup

section Shutdown

variable {outcomes : Outcomes} {config : ZeroConfConfig}

/-- The task of a handle, if there is one, ends normally. -/
def EndsNormally (outcomes : Outcomes) (handle : Option BackgroundTask) : Prop :=
  ∀ task ∈ handle, (outcomes.taskEnd task).isOk=true

/-- Joining empties the slot and awaits the task, and fails exactly when the task panicked. -/
theorem joinTask_cases (outcomes : Outcomes) (slot : ZeroConfMesh → Option BackgroundTask)
    (clear : ZeroConfMesh → ZeroConfMesh) (live : Live) :
    (EndsNormally outcomes (slot live.mesh) ∧ (joinTask outcomes slot clear).run live=
      .ok () ⟨clear live.mesh,live.resources.join (slot live.mesh)⟩) ∨
    (¬EndsNormally outcomes (slot live.mesh) ∧ ∃ e, (joinTask outcomes slot clear).run live=
      .error e ⟨clear live.mesh,live.resources.join (slot live.mesh)⟩) := by
  have hget : (get : Stopping Live).run live=.ok live live := rfl
  have hset : ∀ cleared : Live, (set cleared : Stopping PUnit).run live=.ok ⟨⟩ cleared :=
    fun _ => rfl
  rw [joinTask,run_bind_ok hget,run_bind_ok (hset _)]
  cases hslot : slot live.mesh with
  | none => exact Or.inl ⟨fun task h => absurd h (Option.not_mem_none task),rfl⟩
  | some task =>
    rcases isOk_cases (outcomes.taskEnd task) with ⟨hok,hend⟩|⟨hfail,e,hend⟩
    · refine Or.inl ⟨fun other h => ?_,by simp only [hend]; rfl⟩
      rwa [←Option.mem_some.mp h]
    · refine Or.inr ⟨fun h => ?_,e,by simp only [hend]; rfl⟩
      have hok := h task rfl
      rw [hfail] at hok
      cases hok

/-- The daemon is shut down and every started task was joined. -/
def Released (r : Resources) : Prop := r.daemon=.stopped ∧ ∀ task ∈ r.started, task ∈ r.joined

/-- The tasks of a node are those of its handles. -/
theorem backgroundTasks_ends (outcomes : Outcomes) (config : ZeroConfConfig)
    (localAgent : AgentAnnouncement) :
    (∀ task ∈ backgroundTasks config, (outcomes.taskEnd task).isOk=true) ↔
      EndsNormally outcomes (startedMesh config localAgent).heartbeatTask ∧
        EndsNormally outcomes (some .sweeper) ∧ EndsNormally outcomes (some .listener) := by
  cases hadvertise : config.advertiseLocal
  all_goals
    simp [EndsNormally,startedMesh,backgroundTasks,hadvertise]
    try tauto

/-- Every task of a node has a handle. -/
theorem mem_handles (localAgent : AgentAnnouncement) {task : BackgroundTask}
    (h : task ∈ backgroundTasks config) :
    task ∈ (startedMesh config localAgent).heartbeatTask.toList ++
      ((some BackgroundTask.sweeper).toList ++ (some BackgroundTask.listener).toList) := by
  cases hadvertise : config.advertiseLocal
  all_goals
    simp only [backgroundTasks,hadvertise] at h
    cases task <;> simp_all [startedMesh]

/-- The call of shutdown itself leaves the handles, the daemon and the tasks alone. -/
theorem request_frame (outcomes : Outcomes) (live : Live) :
    (live.request outcomes).mesh.heartbeatTask=live.mesh.heartbeatTask ∧
      (live.request outcomes).mesh.sweeperTask=live.mesh.sweeperTask ∧
      (live.request outcomes).mesh.listenerTask=live.mesh.listenerTask ∧
      (live.request outcomes).resources.daemon=live.resources.daemon ∧
      (live.request outcomes).resources.started=live.resources.started := by
  rw [Live.request,Resources.withdraw]
  split
  · split <;> exact ⟨rfl,rfl,rfl,rfl,rfl⟩
  · exact ⟨rfl,rfl,rfl,rfl,rfl⟩

/-- While the daemon runs, nothing is released. -/
theorem not_released {r : Resources} (h : r.daemon=.running) : ¬Released r := by
  rintro ⟨hstopped,-⟩
  cases h.symm.trans hstopped

/-- The first shutdown of a node releases what it holds exactly when no task panicked. -/
theorem shutdown_released_iff (localAgent : AgentAnnouncement) {r : Resources}
    (hdaemon : r.daemon=.running) (hstarted : r.started=backgroundTasks config) :
    Released (leftBy ((shutdown outcomes).run ⟨startedMesh config localAgent,r⟩)).resources ↔
      ∀ task ∈ backgroundTasks config, (outcomes.taskEnd task).isOk=true := by
  rw [backgroundTasks_ends outcomes config localAgent]
  have hrequest : (shutdown outcomes).run ⟨startedMesh config localAgent,r⟩=
      (do joinTask outcomes ZeroConfMesh.heartbeatTask ZeroConfMesh.takeHeartbeat
          joinTask outcomes ZeroConfMesh.sweeperTask ZeroConfMesh.takeSweeper
          joinTask outcomes ZeroConfMesh.listenerTask ZeroConfMesh.takeListener
          modify fun live => { live with resources := live.resources.stopDaemon } :
        Stopping Unit).run (Live.request outcomes ⟨startedMesh config localAgent,r⟩) := rfl
  obtain ⟨hheartbeat,hsweeper,hlistener,hrunning,hkept⟩ :=
    request_frame outcomes ⟨startedMesh config localAgent,r⟩
  rw [hrequest]
  generalize Live.request outcomes ⟨startedMesh config localAgent,r⟩=live at *
  rw [hdaemon] at hrunning
  have hsweeper : live.mesh.sweeperTask=some .sweeper := hsweeper
  have hlistener : live.mesh.listenerTask=some .listener := hlistener
  rcases joinTask_cases outcomes ZeroConfMesh.heartbeatTask ZeroConfMesh.takeHeartbeat live with
    ⟨hfirst,hrun⟩|⟨hfirst,e,hrun⟩
  swap
  · rw [run_bind_error hrun]
    exact iff_of_false (not_released hrunning) fun h => hfirst (hheartbeat ▸ h.1)
  rw [run_bind_ok hrun]
  rcases joinTask_cases outcomes ZeroConfMesh.sweeperTask ZeroConfMesh.takeSweeper
    ⟨live.mesh.takeHeartbeat,live.resources.join live.mesh.heartbeatTask⟩ with
    ⟨hsecond,hrun⟩|⟨hsecond,e,hrun⟩
  swap
  · rw [run_bind_error hrun]
    exact iff_of_false (not_released hrunning) fun h => hsecond (hsweeper ▸ h.2.1)
  rw [run_bind_ok hrun]
  rcases joinTask_cases outcomes ZeroConfMesh.listenerTask ZeroConfMesh.takeListener
    ⟨live.mesh.takeHeartbeat.takeSweeper,(live.resources.join live.mesh.heartbeatTask).join
      live.mesh.takeHeartbeat.sweeperTask⟩ with ⟨hthird,hrun⟩|⟨hthird,e,hrun⟩
  swap
  · rw [run_bind_error hrun]
    exact iff_of_false (not_released hrunning) fun h => hthird (hlistener ▸ h.2.2)
  rw [run_bind_ok hrun]
  refine iff_of_true ⟨rfl,fun task htask => ?_⟩
    ⟨hheartbeat ▸ hfirst,hsweeper ▸ hsecond,hlistener ▸ hthird⟩
  have htask : task ∈ backgroundTasks config := hstarted ▸ hkept ▸ htask
  have hjoined : task ∈ live.resources.joined ++ live.mesh.heartbeatTask.toList ++
      live.mesh.sweeperTask.toList ++ live.mesh.listenerTask.toList := by
    rw [hheartbeat,hsweeper,hlistener,List.append_assoc,List.append_assoc]
    exact List.mem_append_right _ (mem_handles localAgent htask)
  exact hjoined

/-- A further call of shutdown does nothing. -/
theorem shutdown_again {live : Live} (h : live.mesh.shutdownRequested=true) :
    (shutdown outcomes).run live=.ok () live := by
  have hrun : (shutdown outcomes).run live=
      (if live.mesh.shutdownRequested then pure () else do
        set (live.request outcomes)
        joinTask outcomes ZeroConfMesh.heartbeatTask ZeroConfMesh.takeHeartbeat
        joinTask outcomes ZeroConfMesh.sweeperTask ZeroConfMesh.takeSweeper
        joinTask outcomes ZeroConfMesh.listenerTask ZeroConfMesh.takeListener
        modify fun live => { live with resources := live.resources.stopDaemon } :
        Stopping Unit).run live := rfl
  rw [hrun,if_pos h]
  rfl

end Shutdown

/-- A failed start-up leaves no daemon and no service behind, and the first shutdown of a
started node, whatever is announced by then, joins every task and stops the daemon. -/
structure NeverOutlives (mac : Mac) (outcomes : Outcomes) (config : ZeroConfConfig) : Prop where
  /-- Failed start-up. -/
  failed : ∀ e r, (fromConfig mac outcomes config).run .fresh=.error (.error e) r →
    r.daemon ≠ .absent → r.daemon=.stopped ∧ r.registered=[]
  /-- First shutdown. -/
  stopped : ∀ mesh r, (fromConfig mac outcomes config).run .fresh=.ok mesh r →
    ∀ localAgent registered, Released
      (leftBy ((shutdown outcomes).run ⟨{ mesh with localAgent },{ r with registered }⟩)).resources

/-- The failures after which the code cleans up: with the daemon created, only the browse of
an advertising node fails, and no task of a started node panics. -/
def Handled (outcomes : Outcomes) (config : ZeroConfConfig) : Prop :=
  RulesAccepted outcomes config ∧ (config.advertiseLocal=true → outcomes.register.isOk=true) ∧
    (outcomes.browse.isOk=false → config.advertiseLocal=true) ∧
    (outcomes.browse.isOk=true →
      ∀ task ∈ backgroundTasks config, (outcomes.taskEnd task).isOk=true)

/-- For every validated configuration and every pattern of failures: the daemon never outlives
the node exactly when, once it is created, every failure is one after which the code cleans
up. -/
theorem neverOutlives_iff (mac : Mac) (outcomes : Outcomes) {config : ZeroConfConfig}
    (hvalid : Validated config) :
    NeverOutlives mac outcomes config ↔
      (DaemonCreated outcomes config → Handled outcomes config) := by
  have hstarts := fromConfig_startsAs mac outcomes hvalid
  constructor
  · intro h hcreated
    generalize hrun : (fromConfig mac outcomes config).run .fresh=result at hstarts
    cases hstarts with
    | panicked capacity => cases capacity.symm.trans hcreated.1
    | noDaemon e capacity refused => cases refused.symm.trans hcreated.2
    | refused e created refused => cases (h.failed e _ hrun nofun).1
    | withdrawn e created rules advertises registers refused =>
      refine ⟨rules,fun _ => registers,fun _ => advertises,fun hok => ?_⟩
      cases refused.symm.trans hok
    | abandoned e created rules discovery refused => cases (h.failed e _ hrun nofun).1
    | started built hbuilt created rules registers browses =>
      refine ⟨rules,registers,fun hfail => ?_,fun _ => ?_⟩
      · cases browses.symm.trans hfail
      · exact (shutdown_released_iff _ rfl rfl).mp (h.stopped _ _ hrun built [])
  · intro h
    constructor
    · intro e r hrun hdaemon
      rw [hrun] at hstarts
      cases hstarts with
      | noDaemon e capacity refused => exact absurd rfl hdaemon
      | refused e created refused => exact absurd ⟨(h created).1,(h created).2.1⟩ refused
      | withdrawn e created rules advertises registers refused => exact ⟨rfl,rfl⟩
      | abandoned e created rules discovery refused =>
        cases discovery.symm.trans ((h created).2.2.1 refused)
    · intro mesh r hrun localAgent registered
      rw [hrun] at hstarts
      cases hstarts with
      | started built hbuilt created rules registers browses =>
        exact (shutdown_released_iff localAgent rfl rfl).mpr ((h created).2.2.2 browses)

/-- The small configuration without two interfaces. -/
def excludingConfig : ZeroConfConfig :=
  withDisabledInterfaces sampleConfig [.ipv6,.name "docker0"]

/-- The announced node with interface rules cannot browse and is cleaned up. -/
theorem neverOutlives_iff_browse :
    NeverOutlives Mac.recorded { smooth with browse := .error (.mdns "closed") }
      excludingConfig := by
  have hvalid : Validated excludingConfig := .disabledInterfaces _ sampleConfig_validated
  refine (neverOutlives_iff Mac.recorded _ hvalid).mpr fun _ => ⟨⟨?_,?_⟩,fun _ => rfl,fun _ => rfl,?_⟩
  · exact fun _ _ => rfl
  · exact fun _ _ => rfl
  · exact nofun

/-- A start-up that returned an error, with what it left. -/
def failedWith : EStateM.Result Halt Resources ZeroConfMesh → Option (ZeroConfError × Resources)
  | .error (.error e) r => some (e,r)
  | _ => none

/-- A start-up that returned a node, with what it holds. -/
def returned : EStateM.Result Halt Resources ZeroConfMesh → Option Live
  | .ok mesh r => some ⟨mesh,r⟩
  | _ => none

/-- The results that failed are errors. -/
theorem eq_of_failedWith {result : EStateM.Result Halt Resources ZeroConfMesh} {e : ZeroConfError}
    {r : Resources} (h : failedWith result=some (e,r)) : result=.error (.error e) r := by
  cases result with
  | ok mesh r => cases h
  | error halt r =>
    cases halt with
    | error e =>
      cases h
      rfl
    | panicked => cases h

/-- The results that returned are successes. -/
theorem eq_of_returned {result : EStateM.Result Halt Resources ZeroConfMesh} {live : Live}
    (h : returned result=some live) : result=.ok live.mesh live.resources := by
  cases result with
  | ok mesh r =>
    cases h
    rfl
  | error halt r => cases h

/-- The second interface rule is refused. -/
def refusedRule : Outcomes :=
  { smooth with disableInterface := fun i => if i=1 then .error (.mdns "docker0") else .ok () }

/-- The heartbeat panics. -/
def panickedHeartbeat : Outcomes :=
  { smooth with taskEnd := fun task =>
      if task=.heartbeat then .error (.taskJoin "panicked") else .ok () }

/-- The small node whose heartbeat will panic. -/
def doomedLive : Live :=
  (returned ((fromConfig Mac.recorded panickedHeartbeat sampleConfig).run .fresh)).get
    (by decide +kernel)

/-- What the first shutdown of that node leaves. -/
def stuckLive : Live := leftBy ((shutdown panickedHeartbeat).run doomedLive)

/-- A refused interface rule leaves the daemon running, and so does the shutdown of a node
whose heartbeat panicked; its listener and sweeper are never joined, not even by a second
shutdown. -/
theorem daemon_outlives_node :
    Validated excludingConfig ∧ Validated sampleConfig ∧
    (fromConfig Mac.recorded refusedRule excludingConfig).run .fresh=
      .error (.error (.mdns "docker0")) (daemonOnly excludingConfig) ∧
    (fromConfig Mac.recorded panickedHeartbeat sampleConfig).run .fresh=
      .ok doomedLive.mesh doomedLive.resources ∧
    stuckLive.resources.daemon=.running ∧ stuckLive.resources.joined=[.heartbeat] ∧
    stuckLive.resources.started=[.listener,.heartbeat,.sweeper] ∧
    (shutdown panickedHeartbeat).run stuckLive=.ok () stuckLive ∧
    ¬NeverOutlives Mac.recorded refusedRule excludingConfig ∧
    ¬NeverOutlives Mac.recorded panickedHeartbeat sampleConfig := by
  have hrefused : (fromConfig Mac.recorded refusedRule excludingConfig).run .fresh=
      .error (.error (.mdns "docker0")) (daemonOnly excludingConfig) :=
    eq_of_failedWith (by decide +kernel)
  have hstarted : (fromConfig Mac.recorded panickedHeartbeat sampleConfig).run .fresh=
      .ok doomedLive.mesh doomedLive.resources := eq_of_returned (Option.some_get _).symm
  have hrunning : stuckLive.resources.daemon=.running := by decide +kernel
  have hagain : (shutdown panickedHeartbeat).run stuckLive=.ok () stuckLive :=
    shutdown_again (by decide +kernel)
  refine ⟨.disabledInterfaces _ sampleConfig_validated,sampleConfig_validated,hrefused,hstarted,
    hrunning,by decide +kernel,by decide +kernel,hagain,fun h => ?_,fun h => ?_⟩
  · cases (h.failed _ _ hrefused nofun).1
  · have hstopped := h.stopped _ _ hstarted doomedLive.mesh.localAgent doomedLive.resources.registered
    exact not_released hrunning hstopped

end MeshPresence.DaemonRelease
