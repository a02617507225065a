import MeshPresence.DaemonRelease

/-!
# Nodes that are dropped

The future of a shutdown may be dropped wherever it waits, and the node may be dropped after any
number of such calls. Dropping a node on which no shutdown was begun sends the stop signal,
aborts the tasks and shuts the daemon down, which then withdraws its services; on any other node
it does nothing. So the daemon is shut down in the end exactly when the first shutdown that was
begun got to its end or none was begun. Otherwise the service is withdrawn exactly when that
shutdown got to the withdrawal and the daemon found the service.
-/

namespace MeshPresence.DroppedNodes

open FallibleSteps AgentTypes AgentConfig AgentWire MeshStartup DaemonRelease

/-- A node up to its end. -/
structure Ending where
  /-- The node and what it holds. -/
  live : Live
  /-- The tasks were told to stop. -/
  signalled : Bool := false
  /-- Tasks that were aborted. -/
  aborted : List BackgroundTask := []
  deriving DecidableEq

/-- The parts of a shutdown, at whose boundaries it may wait; the removal of the local record
from the registry is left out. -/
inductive Phase where
  /-- The first call is noted, and the tasks are told to stop. -/
  | request
  /-- The daemon was asked to withdraw the service. -/
  | unregister
  /-- The handle of a task is taken. -/
  | take (task : BackgroundTask)
  /-- The end of the task was awaited. -/
  | join (task : BackgroundTask)
  /-- The daemon is shut down. -/
  | stop
  deriving DecidableEq

/-- The slot of a task is emptied. -/
def clearSlot : BackgroundTask → ZeroConfMesh → ZeroConfMesh
  | .heartbeat => ZeroConfMesh.takeHeartbeat
  | .sweeper => ZeroConfMesh.takeSweeper
  | .listener => ZeroConfMesh.takeListener

/-- The effect of a part. -/
def Phase.perform (outcomes : Outcomes) (e : Ending) : Phase → Ending
  | .request =>
    { e with live := { e.live with mesh := { e.live.mesh with shutdownRequested := true } }
             signalled := true }
  | .unregister =>
    { e with live :=
        { e.live with resources := e.live.resources.withdraw outcomes e.live.mesh.localAgent } }
  | .take task => { e with live := { e.live with mesh := clearSlot task e.live.mesh } }
  | .join task => { e with live := { e.live with resources := e.live.resources.join (some task) } }
  | .stop => { e with live := { e.live with resources := e.live.resources.stopDaemon } }

/-- The part ends the shutdown with an error. -/
def Phase.fails (outcomes : Outcomes) : Phase → Bool
  | .join task => !(outcomes.taskEnd task).isOk
  | _ => false

/-- The handles of a node. -/
def handles (mesh : ZeroConfMesh) : List BackgroundTask :=
  mesh.heartbeatTask.toList ++ mesh.sweeperTask.toList ++ mesh.listenerTask.toList

/-- The parts in front of the shutdown of the daemon. -/
def preparation (mesh : ZeroConfMesh) : List Phase :=
  .request :: (if mesh.config.advertiseLocal then [.unregister] else []) ++
    (handles mesh).flatMap fun task => [.take task,.join task]

/-- The parts up to the first that fails. -/
def throughFailure (outcomes : Outcomes) : List Phase → List Phase
  | [] => []
  | phase :: phases =>
    if phase.fails outcomes then [phase] else phase :: throughFailure outcomes phases

/-- A call of shutdown whose future is dropped after a number of parts. -/
def shutdownCall (outcomes : Outcomes) (e : Ending) (parts : ℕ) : Ending :=
  if e.live.mesh.shutdownRequested then e
  else ((throughFailure outcomes (preparation e.live.mesh ++ [.stop])).take parts).foldl
    (Phase.perform outcomes) e

/-- Drop the node. -/
def Ending.drop (e : Ending) : Ending :=
  if e.live.mesh.shutdownRequested then e
  else
    { live :=
        { mesh := { e.live.mesh with shutdownRequested := true, heartbeatTask := none
                                     sweeperTask := none, listenerTask := none }
          resources := e.live.resources.stopDaemon }
      signalled := true
      aborted := e.aborted ++ handles e.live.mesh }

section Phases

variable {outcomes : Outcomes}

/-- Parts keep the announcement of the node. -/
theorem foldl_perform_localAgent (phases : List Phase) (e : Ending) :
    (phases.foldl (Phase.perform outcomes) e).live.mesh.localAgent=e.live.mesh.localAgent := by
  induction phases generalizing e with
  | nil => rfl
  | cons phase phases ih =>
    rw [List.foldl_cons,ih]
    cases phase with
    | take task => cases task <;> rfl
    | request | unregister | join task | stop => rfl

/-- The shutdown is requested by its first part. -/
theorem foldl_perform_requested (phases : List Phase) (e : Ending) :
    (phases.foldl (Phase.perform outcomes) e).live.mesh.shutdownRequested=true ↔
      e.live.mesh.shutdownRequested=true ∨ Phase.request ∈ phases := by
  induction phases generalizing e with
  | nil => exact (or_iff_left List.not_mem_nil).symm
  | cons phase phases ih =>
    rw [List.foldl_cons,ih,List.mem_cons]
    cases phase with
    | request => exact iff_of_true (Or.inl rfl) (Or.inr (Or.inl rfl))
    | take task => cases task <;> simp only [Phase.perform,clearSlot,ZeroConfMesh.takeHeartbeat,
        ZeroConfMesh.takeSweeper,ZeroConfMesh.takeListener,reduceCtorEq,false_or]
    | unregister | join task | stop => simp only [Phase.perform,reduceCtorEq,false_or]

/-- The stop signal is sent by the first part. -/
theorem foldl_perform_signalled (phases : List Phase) (e : Ending) :
    (phases.foldl (Phase.perform outcomes) e).signalled=true ↔
      e.signalled=true ∨ Phase.request ∈ phases := by
  induction phases generalizing e with
  | nil => exact (or_iff_left List.not_mem_nil).symm
  | cons phase phases ih =>
    rw [List.foldl_cons,ih,List.mem_cons]
    cases phase <;> simp only [Phase.perform,reduceCtorEq,false_or,true_or,or_true]

/-- The daemon is shut down by the last part. -/
theorem foldl_perform_daemon (phases : List Phase) (e : Ending) :
    (phases.foldl (Phase.perform outcomes) e).live.resources.daemon=.stopped ↔
      e.live.resources.daemon=.stopped ∨ Phase.stop ∈ phases := by
  induction phases generalizing e with
  | nil => exact (or_iff_left List.not_mem_nil).symm
  | cons phase phases ih =>
    rw [List.foldl_cons,ih,List.mem_cons]
    cases phase <;> simp only [Phase.perform,Resources.withdraw_daemon,Resources.join,
      Resources.stopDaemon,reduceCtorEq,false_or,true_or,or_true]

/-- A service is held until the daemon finds it for its withdrawal or is shut down. -/
theorem foldl_perform_registered (phases : List Phase) (e : Ending) (name : String) :
    name ∈ (phases.foldl (Phase.perform outcomes) e).live.resources.registered ↔
      name ∈ e.live.resources.registered ∧ Phase.stop ∉ phases ∧
        (Phase.unregister ∈ phases → outcomes.unregister=true →
          name ≠ e.live.mesh.localAgent.instanceName) := by
  induction phases generalizing e with
  | nil => simp only [List.foldl_nil,List.not_mem_nil,not_false_eq_true,false_implies,and_true]
  | cons phase phases ih =>
    have hlocal : (Phase.perform outcomes e phase).live.mesh.localAgent=e.live.mesh.localAgent :=
      foldl_perform_localAgent [phase] e
    rw [List.foldl_cons,ih,List.mem_cons,List.mem_cons,hlocal]
    cases phase with
    | unregister =>
      simp only [Phase.perform,Resources.mem_withdraw,reduceCtorEq,false_or,true_or,forall_const]
      tauto
    | stop => simp only [Phase.perform,Resources.stopDaemon,List.not_mem_nil,false_and,true_or,
        not_true_eq_false,and_false]
    | request | take task | join task =>
      simp only [Phase.perform,Resources.join,reduceCtorEq,false_or]

/-- The daemon is shut down within a number of parts exactly when none in front fails and there
are enough. -/
theorem stop_mem_take {phases : List Phase} (hstop : Phase.stop ∉ phases) (parts : ℕ) :
    Phase.stop ∈ (throughFailure outcomes (phases ++ [.stop])).take parts ↔
      (∀ phase ∈ phases, phase.fails outcomes=false) ∧ phases.length<parts := by
  induction phases generalizing parts with
  | nil =>
    have hlist : throughFailure outcomes ([] ++ [.stop])=[.stop] := rfl
    rw [hlist]
    cases parts with
    | zero => exact iff_of_false List.not_mem_nil fun h => absurd h.2 (Nat.not_lt_zero _)
    | succ parts =>
      exact iff_of_true (List.mem_cons_self) ⟨fun _ h => absurd h List.not_mem_nil,
        Nat.succ_pos parts⟩
  | cons phase phases ih =>
    rw [List.mem_cons,not_or] at hstop
    obtain ⟨hne,hstop⟩ := hstop
    cases parts with
    | zero => exact iff_of_false List.not_mem_nil fun h => absurd h.2 (Nat.not_lt_zero _)
    | succ parts =>
      rw [List.cons_append,throughFailure,List.forall_mem_cons,List.length_cons,
        Nat.succ_lt_succ_iff]
      cases hfails : phase.fails outcomes with
      | true =>
        rw [if_pos rfl,List.take_succ_cons,List.take_nil,List.mem_singleton]
        exact iff_of_false hne fun h => nomatch h.1.1
      | false =>
        rw [if_neg Bool.false_ne_true,List.take_succ_cons,List.mem_cons,ih hstop,
          or_iff_right hne,eq_self_iff_true,true_and]

/-- The service is withdrawn with the second part of an advertising node. -/
theorem unregister_mem_take {mesh : ZeroConfMesh} (hadvertise : mesh.config.advertiseLocal=true)
    (parts : ℕ) : Phase.unregister ∈
      (throughFailure outcomes (preparation mesh ++ [.stop])).take parts ↔ 2 ≤ parts := by
  have hlist : ∃ rest, throughFailure outcomes (preparation mesh ++ [.stop])=
      .request :: .unregister :: rest := by
    rw [preparation,hadvertise]
    exact ⟨_,rfl⟩
  obtain ⟨rest,hrest⟩ := hlist
  rw [hrest]
  match parts with
  | 0 => exact iff_of_false List.not_mem_nil (by decide)
  | 1 => exact iff_of_false (by rw [List.take_succ_cons,List.take_zero]; decide) (by decide)
  | parts+2 =>
    have hsecond : Phase.unregister ∈
        (Phase.request :: Phase.unregister :: rest).take (parts+2) := by
      rw [List.take_succ_cons,List.take_succ_cons]
      exact List.mem_of_mem_tail List.mem_cons_self
    exact iff_of_true hsecond (Nat.le_add_left 2 parts)

/-- Every call that begins has the first part. -/
theorem request_mem_take {mesh : ZeroConfMesh} {parts : ℕ} (h : 0<parts) : Phase.request ∈
    (throughFailure outcomes (preparation mesh ++ [.stop])).take parts := by
  obtain ⟨parts,rfl⟩ := Nat.exists_eq_succ_of_ne_zero h.ne'
  exact List.mem_cons_self

end Phases

section Calls

variable {outcomes : Outcomes} {e : Ending}

/-- After a call that began, nothing happens. -/
theorem foldl_shutdownCall_requested (h : e.live.mesh.shutdownRequested=true) (calls : List ℕ) :
    calls.foldl (shutdownCall outcomes) e=e := by
  induction calls with
  | nil => rfl
  | cons parts calls ih => rw [List.foldl_cons,shutdownCall,if_pos h,ih]

/-- The first call that begins. -/
def begun (calls : List ℕ) : Option ℕ := calls.find? fun parts => 0<parts

/-- A call that begins has a part. -/
theorem begun_pos {calls : List ℕ} {parts : ℕ} (h : begun calls=some parts) : 0<parts := by
  rw [begun] at h
  have hfound := List.find?_some h
  exact of_decide_eq_true hfound

/-- Only the first call that begins has an effect. -/
theorem foldl_shutdownCall (h : e.live.mesh.shutdownRequested=false) (calls : List ℕ) :
    calls.foldl (shutdownCall outcomes) e=
      (begun calls).elim e (shutdownCall outcomes e) := by
  induction calls with
  | nil => rfl
  | cons parts calls ih =>
    rw [List.foldl_cons,begun,List.find?_cons]
    by_cases hparts : 0<parts
    · rw [decide_eq_true hparts]
      refine foldl_shutdownCall_requested ?_ calls
      rw [shutdownCall,if_neg (by rw [h]; exact Bool.false_ne_true),foldl_perform_requested]
      exact Or.inr (request_mem_take hparts)
    · have hnothing : shutdownCall outcomes e parts=e := by
        rw [shutdownCall,if_neg (by rw [h]; exact Bool.false_ne_true),Nat.eq_zero_of_not_pos hparts]
        rfl
      rw [decide_eq_false hparts,hnothing,ih]
      rfl

/-- Taking a handle and awaiting its task are the two parts for the task. -/
theorem foldl_joinTask {slot : ZeroConfMesh → Option BackgroundTask}
    {clear : ZeroConfMesh → ZeroConfMesh} {task : BackgroundTask} {rest : List Phase}
    {next : Stopping Unit} (hslot : slot e.live.mesh=some task)
    (hclear : clear e.live.mesh=clearSlot task e.live.mesh)
    (hnext : ∀ e' : Ending, e'.live=⟨clear e.live.mesh,e.live.resources.join (slot e.live.mesh)⟩ →
      ((throughFailure outcomes rest).foldl (Phase.perform outcomes) e').live=
        leftBy (next.run e'.live)) :
    ((throughFailure outcomes (.take task :: .join task :: rest)).foldl
        (Phase.perform outcomes) e).live=
      leftBy ((joinTask outcomes slot clear >>= fun _ => next).run e.live) := by
  have hjoined : (Phase.perform outcomes (Phase.perform outcomes e (.take task)) (.join task)).live=
      ⟨clear e.live.mesh,e.live.resources.join (slot e.live.mesh)⟩ := by
    rw [hslot,hclear]
    rfl
  have hends : EndsNormally outcomes (slot e.live.mesh) ↔ (outcomes.taskEnd task).isOk=true := by
    rw [hslot]
    exact ⟨fun h => h task rfl,fun h other hother => Option.mem_some.mp hother ▸ h⟩
  have htake : (Phase.take task).fails outcomes=false := rfl
  rw [throughFailure,htake,if_neg Bool.false_ne_true,throughFailure,Phase.fails]
  rcases joinTask_cases outcomes slot clear e.live with ⟨hok,hrun⟩|⟨hfail,error,hrun⟩
  · rw [run_bind_ok hrun,hends.mp hok,Bool.not_true,if_neg Bool.false_ne_true,List.foldl_cons,
      List.foldl_cons,hnext _ hjoined,hjoined]
  · rw [run_bind_error hrun,Bool.eq_false_iff.mpr (mt hends.mpr hfail),Bool.not_false,if_pos rfl]
    exact hjoined

/-- There are no more parts up to a failure than parts. -/
theorem length_throughFailure (outcomes : Outcomes) (phases : List Phase) :
    (throughFailure outcomes phases).length ≤ phases.length := by
  induction phases with
  | nil => exact le_rfl
  | cons phase phases ih =>
    rw [throughFailure]
    split
    · exact Nat.succ_le_succ (Nat.zero_le _)
    · exact Nat.succ_le_succ ih

/-- Awaiting the sweeper and the listener and stopping the daemon are the parts for that. -/
theorem foldl_joinRest (hsweeper : e.live.mesh.sweeperTask=some .sweeper)
    (hlistener : e.live.mesh.listenerTask=some .listener) :
    ((throughFailure outcomes [.take .sweeper,.join .sweeper,.take .listener,.join .listener,
        .stop]).foldl (Phase.perform outcomes) e).live=
      leftBy ((do
        joinTask outcomes ZeroConfMesh.sweeperTask ZeroConfMesh.takeSweeper
        joinTask outcomes ZeroConfMesh.listenerTask ZeroConfMesh.takeListener
        modify fun live => { live with resources := live.resources.stopDaemon } :
          Stopping Unit).run e.live) := by
  refine foldl_joinTask hsweeper rfl fun e' he' => ?_
  refine foldl_joinTask ?_ rfl fun e'' _ => rfl
  rw [he']
  exact hlistener

/-- A call whose future is not dropped is the shutdown. -/
theorem shutdownCall_whole (config : ZeroConfConfig) (localAgent : AgentAnnouncement)
    (r : Resources) {parts : ℕ} (h : (preparation (startedMesh config localAgent)).length<parts) :
    (shutdownCall outcomes { live := ⟨startedMesh config localAgent,r⟩ } parts).live=
      leftBy ((shutdown outcomes).run ⟨startedMesh config localAgent,r⟩) := by
  let start : Ending := { live := ⟨startedMesh config localAgent,r⟩ }
  have hcall : shutdownCall outcomes start parts=(throughFailure outcomes
      (preparation (startedMesh config localAgent) ++ [.stop])).foldl (Phase.perform outcomes)
        start := by
    have hlength := length_throughFailure outcomes
      (preparation (startedMesh config localAgent) ++ [.stop])
    rw [List.length_append] at hlength
    exact congrArg (List.foldl (Phase.perform outcomes) start)
      (List.take_of_length_le (hlength.trans h))
  have hrequest : (shutdown outcomes).run ⟨startedMesh config localAgent,r⟩=
      (do joinTask outcomes ZeroConfMesh.heartbeatTask ZeroConfMesh.takeHeartbeat
          joinTask outcomes ZeroConfMesh.sweeperTask ZeroConfMesh.takeSweeper
          joinTask outcomes ZeroConfMesh.listenerTask ZeroConfMesh.takeListener
          modify fun live => { live with resources := live.resources.stopDaemon } :
        Stopping Unit).run (Live.request outcomes ⟨startedMesh config localAgent,r⟩) := rfl
  rw [hcall,hrequest]
  cases hadvertise : config.advertiseLocal with
  | true =>
    have hparts : preparation (startedMesh config localAgent) ++ [.stop]=
        [.request,.unregister,.take .heartbeat,.join .heartbeat,.take .sweeper,.join .sweeper,
          .take .listener,.join .listener,.stop] := by
      simp only [preparation,handles,startedMesh,hadvertise,if_true]
      rfl
    let withdrawn := Phase.perform outcomes (Phase.perform outcomes start .request) .unregister
    have hlive : withdrawn.live=
        Live.request outcomes ⟨startedMesh config localAgent,r⟩ :=
      congrArg (Live.mk _) (if_pos hadvertise).symm
    rw [hparts,←hlive]
    refine foldl_joinTask (e := withdrawn) ?_ rfl fun e' he' => ?_
    · simp only [withdrawn,Phase.perform,start,startedMesh,hadvertise,if_true]
    · refine foldl_joinRest ?_ ?_ <;> rw [he'] <;> rfl
  | false =>
    have hparts : preparation (startedMesh config localAgent) ++ [.stop]=
        [.request,.take .sweeper,.join .sweeper,.take .listener,.join .listener,.stop] := by
      simp only [preparation,handles,startedMesh,hadvertise,if_false,Bool.false_eq_true]
      rfl
    have hquiet : ¬config.advertiseLocal=true := Bool.eq_false_iff.mp hadvertise
    have hlive : (Phase.perform outcomes start .request).live=
        Live.request outcomes ⟨startedMesh config localAgent,r⟩ :=
      congrArg (Live.mk _) (if_neg hquiet).symm
    have hslot : (Phase.perform outcomes start .request).live.mesh.heartbeatTask=none := by
      simp only [Phase.perform,start,startedMesh,hadvertise,if_false,Bool.false_eq_true]
    rw [hparts,←hlive]
    rcases joinTask_cases outcomes ZeroConfMesh.heartbeatTask ZeroConfMesh.takeHeartbeat
      (Phase.perform outcomes start .request).live with ⟨-,hrun⟩|⟨hfail,-⟩
    · have hsame : (⟨(Phase.perform outcomes start .request).live.mesh.takeHeartbeat,
          (Phase.perform outcomes start .request).live.resources.join
            (Phase.perform outcomes start .request).live.mesh.heartbeatTask⟩ : Live)=
          (Phase.perform outcomes start .request).live := by
        simp only [ZeroConfMesh.takeHeartbeat,Resources.join,Option.toList_none,
          List.append_nil,Phase.perform,start,startedMesh,hadvertise,if_false,Bool.false_eq_true]
      rw [run_bind_ok hrun,hsame]
      exact foldl_joinRest rfl rfl
    · rw [hslot] at hfail
      exact absurd (fun _ htask => absurd htask (Option.not_mem_none _)) hfail

end Calls

section Drops

variable {outcomes : Outcomes} {config : ZeroConfConfig}

/-- No part in front of the last one shuts the daemon down. -/
theorem stop_notMem_preparation (mesh : ZeroConfMesh) : Phase.stop ∉ preparation mesh := by
  intro h
  rw [preparation,List.cons_append,List.mem_cons,List.mem_append] at h
  rcases h with h|h|h
  · cases h
  · split at h
    · cases List.mem_singleton.mp h
    · exact List.not_mem_nil h
  · obtain ⟨task,-,htask⟩ := List.mem_flatMap.mp h
    simp only [List.mem_cons,reduceCtorEq,List.not_mem_nil,or_false] at htask

/-- No part of a started node fails exactly when no task panicked. -/
theorem preparation_succeeds (localAgent : AgentAnnouncement) :
    (∀ phase ∈ preparation (startedMesh config localAgent), phase.fails outcomes=false) ↔
      ∀ task ∈ backgroundTasks config, (outcomes.taskEnd task).isOk=true := by
  have hhandles : ∀ task, task ∈ handles (startedMesh config localAgent) ↔
      task ∈ backgroundTasks config := by
    intro task
    cases hadvertise : config.advertiseLocal <;> cases task <;>
      simp only [handles,startedMesh,backgroundTasks,hadvertise,if_true,if_false,
        Bool.false_eq_true,Option.toList_some,Option.toList_none] <;> decide
  constructor
  · intro h task htask
    have hjoin : Phase.join task ∈ preparation (startedMesh config localAgent) :=
      List.mem_append_right _ (List.mem_flatMap.mpr ⟨task,(hhandles task).mpr htask,
        List.mem_cons_of_mem _ List.mem_cons_self⟩)
    have hends := h _ hjoin
    rwa [Phase.fails,Bool.not_eq_false'] at hends
  · intro h phase hphase
    cases phase with
    | join task =>
      rw [preparation,List.cons_append,List.mem_cons,List.mem_append] at hphase
      rcases hphase with hphase|hphase|hphase
      · cases hphase
      · split at hphase
        · cases List.mem_singleton.mp hphase
        · exact absurd hphase List.not_mem_nil
      · obtain ⟨other,hother,htask⟩ := List.mem_flatMap.mp hphase
        simp only [List.mem_cons,reduceCtorEq,false_or,Phase.join.injEq,List.not_mem_nil,or_false]
          at htask
        rw [Phase.fails,htask,h other ((hhandles other).mp hother),Bool.not_true]
    | request | unregister | take task | stop => rfl

/-- A call that begins on a node that no call was begun on. -/
theorem drop_shutdownCall {e : Ending} (h : e.live.mesh.shutdownRequested=false) {parts : ℕ}
    (hparts : 0<parts) : (shutdownCall outcomes e parts).drop=
      ((throughFailure outcomes (preparation e.live.mesh ++ [.stop])).take parts).foldl
        (Phase.perform outcomes) e := by
  have hcall : shutdownCall outcomes e parts=
      ((throughFailure outcomes (preparation e.live.mesh ++ [.stop])).take parts).foldl
        (Phase.perform outcomes) e := if_neg (Bool.eq_false_iff.mp h)
  rw [hcall]
  exact if_pos ((foldl_perform_requested _ e).mpr (Or.inr (request_mem_take hparts)))

end Drops

/-- No call of shutdown was begun, or the first one that was got through all its parts and no task
had panicked. -/
def Finishes (outcomes : Outcomes) (mesh : ZeroConfMesh) (calls : List ℕ) : Prop :=
  ∀ parts, begun calls=some parts → (preparation mesh).length<parts ∧
    ∀ task ∈ backgroundTasks mesh.config, (outcomes.taskEnd task).isOk=true

/-- A started node is dropped after any calls of shutdown, whose futures may have been dropped
after any number of parts. Then its tasks were told to stop. Its daemon is shut down exactly when
no call was begun, or the first one that was begun got through all its parts and no task had
panicked. An announced service is withdrawn exactly when the daemon is shut down, or the first call
that was begun got to its second part and the daemon found the service. -/
theorem dropped_node_releases (mac : Mac) (outcomes : Outcomes) {config : ZeroConfConfig}
    (hvalid : Validated config) {mesh : ZeroConfMesh} {r : Resources}
    (hrun : (fromConfig mac outcomes config).run .fresh=.ok mesh r)
    (localAgent : AgentAnnouncement) (registered : List String) (calls : List ℕ) :
    let dropped := (calls.foldl (shutdownCall outcomes)
      { live := ⟨{ mesh with localAgent },{ r with registered }⟩ }).drop
    dropped.signalled=true ∧
    (dropped.live.resources.daemon=.stopped ↔ Finishes outcomes mesh calls) ∧
    (config.advertiseLocal=true → localAgent.instanceName ∈ registered →
      (localAgent.instanceName ∉ dropped.live.resources.registered ↔
        Finishes outcomes mesh calls ∨
          outcomes.unregister=true ∧ ∃ parts, begun calls=some parts ∧ 2 ≤ parts)) := by
  have hstarts := fromConfig_startsAs mac outcomes hvalid
  rw [hrun] at hstarts
  cases hstarts with
  | started built hbuilt created rules registers browses =>
    let e : Ending :=
      { live := ⟨startedMesh config localAgent,
          { holdings config (signedAnnouncement mac config built) with registered }⟩ }
    have hcalls : calls.foldl (shutdownCall outcomes) e=
        (begun calls).elim e (shutdownCall outcomes e) := foldl_shutdownCall rfl calls
    have hfinishes : ∀ parts, begun calls=some parts →
        (Finishes outcomes (startedMesh config (signedAnnouncement mac config built)) calls ↔
          Phase.stop ∈
            (throughFailure outcomes (preparation e.live.mesh ++ [.stop])).take parts) := by
      intro parts hbegun
      rw [stop_mem_take (stop_notMem_preparation e.live.mesh),preparation_succeeds,and_comm]
      exact ⟨fun h => h parts hbegun,fun h other ho =>
        Option.some.inj (hbegun.symm.trans ho) ▸ h⟩
    change (calls.foldl (shutdownCall outcomes) e).drop.signalled=true ∧
      ((calls.foldl (shutdownCall outcomes) e).drop.live.resources.daemon=.stopped ↔ _) ∧
      (_ → _ → (_ ∉ (calls.foldl (shutdownCall outcomes) e).drop.live.resources.registered ↔ _))
    rw [hcalls]
    cases hbegun : begun calls with
    | none =>
      have hnone : Finishes outcomes (startedMesh config (signedAnnouncement mac config built))
          calls := fun parts h => nomatch hbegun.symm.trans h
      exact ⟨rfl,iff_of_true rfl hnone,fun _ _ => iff_of_true List.not_mem_nil (Or.inl hnone)⟩
    | some parts =>
      have hparts := begun_pos hbegun
      have hdrop : (shutdownCall outcomes e parts).drop=((throughFailure outcomes
          (preparation e.live.mesh ++ [.stop])).take parts).foldl (Phase.perform outcomes) e :=
        drop_shutdownCall rfl hparts
      rw [Option.elim_some,hdrop,hfinishes parts hbegun]
      refine ⟨?_,?_,fun hadvertise hregistered => ?_⟩
      · exact (foldl_perform_signalled _ e).mpr (Or.inr (request_mem_take hparts))
      · have hrunning : ¬e.live.resources.daemon=.stopped := nofun
        rw [foldl_perform_daemon,or_iff_right hrunning]
      · have hheld : localAgent.instanceName ∈ e.live.resources.registered := hregistered
        have hsame : e.live.mesh.localAgent.instanceName=localAgent.instanceName := rfl
        rw [foldl_perform_registered,and_iff_right hheld,unregister_mem_take hadvertise,hsame]
        simp only [Option.some.injEq,exists_eq_left',ne_eq,not_true_eq_false,not_and_or,not_not,
          Classical.not_imp,not_false_eq_true,and_true]
        exact or_congr_right and_comm

/-- The small node, started. -/
def smallLive : Live :=
  (returned ((fromConfig Mac.recorded smooth sampleConfig).run .fresh)).get (by decide +kernel)

/-- Dropped without a shutdown, the small node stops its daemon, which withdraws the service. A
shutdown that is dropped while it waits for the heartbeat leaves the daemon, and the service too
when the daemon did not find it. -/
theorem dropped_node_releases_small :
    (Ending.drop { live := smallLive }).live.resources.daemon=.stopped ∧
    smallLive.mesh.localAgent.instanceName ∉
      (Ending.drop { live := smallLive }).live.resources.registered ∧
    (shutdownCall smooth { live := smallLive } 3).drop.live.resources.daemon ≠ .stopped ∧
    smallLive.mesh.localAgent.instanceName ∉
      (shutdownCall smooth { live := smallLive } 3).drop.live.resources.registered ∧
    smallLive.mesh.localAgent.instanceName ∈
      (shutdownCall { smooth with unregister := false }
        { live := smallLive } 3).drop.live.resources.registered := by
  have hrun : ∀ found, (fromConfig Mac.recorded { smooth with unregister := found }
      sampleConfig).run .fresh=.ok smallLive.mesh smallLive.resources := by
    intro found
    refine eq_of_returned ?_
    cases found with
    | true => exact (Option.some_get _).symm
    | false => decide +kernel
  have hregistered : smallLive.mesh.localAgent.instanceName ∈ smallLive.resources.registered := by
    decide +kernel
  have hadvertise : sampleConfig.advertiseLocal=true := by decide +kernel
  have hreleases := fun found => dropped_node_releases Mac.recorded { smooth with unregister := found }
    sampleConfig_validated (hrun found) smallLive.mesh.localAgent smallLive.resources.registered
  have hcut : ∀ found, ¬Finishes { smooth with unregister := found } smallLive.mesh [3] := by
    intro found h
    have hlength : ¬(preparation smallLive.mesh).length<3 := by decide +kernel
    exact hlength (h 3 rfl).1
  have hwhole : Finishes smooth smallLive.mesh [] := nofun
  obtain ⟨-,hdropped,hkept⟩ := hreleases true []
  obtain ⟨-,hleft,hwithdrawn⟩ := hreleases true [3]
  obtain ⟨-,-,hmissed⟩ := hreleases false [3]
  refine ⟨hdropped.mpr hwhole,(hkept hadvertise hregistered).mpr (.inl hwhole),
    fun h => hcut true (hleft.mp h),?_,?_⟩
  · exact (hwithdrawn hadvertise hregistered).mpr (.inr ⟨rfl,3,rfl,by decide⟩)
  · refine not_not.mp (mt (hmissed hadvertise hregistered).mp ?_)
    rintro (h|⟨hfound,-⟩)
    · exact hcut false h
    · cases hfound

end MeshPresence.DroppedNodes
