import Mathlib.Order.Filter.Finite
import MeshPresence.FairRuns
import MeshPresence.LocalEntry

/-!
# Calls that return

The runtime goes on with whatever can go on: with a call, with a tick that has begun, with the
shutdown, and with a loop that was told to stop, which looks at the signal again and again and not
only at its own work. Then every update call returns. Once the shutdown was called, the heartbeat,
the sweeper and the listener end and the shutdown returns, whatever the daemon answers and however
many ticks, sweeps, resolved services and update calls come in between; and when no more update
calls come, the node comes to rest for good.
-/

namespace MeshPresence.NodeProgress

open Filter FairRuns GuardedRuns AgentTypes AgentConfig AgentWire AgentRegistry AgentListener
open MeshRuntime MeshEffects

/-- The shutdown goes on. -/
def shutsDown (_ : Mesh) : Action → Prop
  | .shutdown .signal => False
  | .shutdown _ => True
  | _ => False

/-- A tick that has begun goes on. -/
def ticks (_ : Mesh) : Action → Prop
  | .tick (.announce _) => True
  | .tick (.upsert _) => True
  | _ => False

/-- The heartbeat sees the signal. -/
def stopsTicking (_ : Mesh) (action : Action) : Prop := action=.tick .stop

/-- The listener sees the signal. -/
def stopsListening (_ : Mesh) (action : Action) : Prop := action=.task .stopListener

/-- The sweeper sees the signal. -/
def stopsSweeping (_ : Mesh) (action : Action) : Prop := action=.task .stopSweeper

/-- A call goes on. -/
def advances (i : ℕ) (_ : Mesh) : Action → Prop
  | .call (.begin _) => False
  | .call (.mutate k) => k=i
  | .call (.refresh k) => k=i
  | .call (.announce k _) => k=i
  | .call (.upsert k _) => k=i
  | _ => False

/-- The runtime goes on with whatever can go on. A loop waits for its own work and for the signal
at once, and is not always given its own work first. -/
structure Fair {mac : Mac} (ρ : InfiniteRun (MeshRuntime.step mac)) : Prop where
  /-- The shutdown. -/
  shutdown : ρ.Just shutsDown
  /-- A tick that has begun. -/
  ticking : ρ.Just ticks
  /-- The end of the heartbeat. -/
  heartbeat : ρ.Compassionate stopsTicking
  /-- The end of the listener. -/
  listener : ρ.Just stopsListening
  /-- The end of the sweeper. -/
  sweeper : ρ.Just stopsSweeping
  /-- The update calls. -/
  calls : ∀ i, ρ.Just (advances i)

/-- A started node whose shutdown was called. -/
structure Called (m : Mesh) : Prop where
  /-- Start-up is over. -/
  running : m.start=.running
  /-- The signal was sent. -/
  signalled : m.signalled=true

/-- The heartbeat is over, or never was. -/
def Silenced (m : Mesh) : Prop := m.heartbeat=.notSpawned ∨ m.heartbeat=.stopped

/-- Parts of the shutdown that are still to do. -/
def shutdownRank : ShutdownPhase → ℕ
  | .idle => 5
  | .signalled => 4
  | .unregister _ => 3
  | .remove _ => 2
  | .join => 1
  | .returned => 0

/-- Parts of a tick that are still to do. -/
def tickRank : TickPhase → ℕ
  | .announce _ => 2
  | .upsert _ => 1
  | _ => 0

/-- Parts of a call that are still to do. -/
def callRank : CallPhase → ℕ
  | .mutate => 4
  | .refresh => 3
  | .announce _ => 2
  | .upsert _ => 1
  | .returned _ => 0

/-- The moves of the heartbeat. -/
inductive TickMove (m : Mesh) : TickAction → Mesh → Prop where
  /-- A tick begins. -/
  | clone (waiting : m.heartbeat=.waiting) : TickMove m .clone
      { m with shared := m.shared.copied, heartbeat := .announce m.shared.snapshot }
  /-- The copy is announced; a failure is only logged. -/
  | announce (outcome : Except ZeroConfError Unit) (snapshot : Snapshot)
      (hphase : m.heartbeat=.announce snapshot) : TickMove m (.announce outcome)
      { m with shared := m.shared.announce snapshot, heartbeat := .upsert snapshot }
  /-- The copy is upserted. -/
  | upsert (snapshot : Snapshot) (now : Instant) (hphase : m.heartbeat=.upsert snapshot) :
      TickMove m (.upsert now)
        { m with shared := m.shared.upsertLocal snapshot now, heartbeat := .waiting }
  /-- The loop ends. -/
  | stop (waiting : m.heartbeat=.waiting) (signalled : m.signalled=true) :
      TickMove m .stop { m with heartbeat := .stopped }

/-- The moves of the listener and the sweeper: the registry they leave, and which of the two
loops are left. -/
inductive TaskMove (m : Mesh) : TaskAction → Mesh → Prop where
  /-- The listener handles an event. -/
  | browse (event : BrowseEvent) (registry : Registry) (listening : m.listening=true) :
      TaskMove m (.browse event)
        { m with shared := { m.shared with registry }, listening := !event.stops }
  /-- The listener ends. -/
  | stopListener (listening : m.listening=true) (signalled : m.signalled=true) :
      TaskMove m .stopListener { m with listening := false }
  /-- The sweeper evicts. -/
  | sweep (order : AgentOrder) (now : Instant) (registry : Registry) (sweeping : m.sweeping=true) :
      TaskMove m (.sweep order now) { m with shared := { m.shared with registry } }
  /-- The sweeper ends. -/
  | stopSweeper (sweeping : m.sweeping=true) (signalled : m.signalled=true) :
      TaskMove m .stopSweeper { m with sweeping := false }

section Steps

variable {mac : Mac} {m m' : Mesh} {action : Action}

/-- A step of the heartbeat is one of its moves. -/
theorem tickStep_cases {own : TickAction} (h : m.tickStep own=some m') : TickMove m own m' := by
  cases own with
  | clone =>
    simp only [Mesh.tickStep] at h
    split at h
    · next waiting =>
      cases h
      exact .clone waiting
    · cases h
  | announce outcome =>
    simp only [Mesh.tickStep] at h
    split at h
    · next snapshot hphase =>
      cases h
      exact .announce outcome snapshot hphase
    · cases h
  | upsert now =>
    simp only [Mesh.tickStep] at h
    split at h
    · next snapshot hphase =>
      cases h
      exact .upsert snapshot now hphase
    · cases h
  | stop =>
    simp only [Mesh.tickStep] at h
    split at h
    · next waiting =>
      split at h
      · next signalled =>
        cases h
        exact .stop waiting signalled
      · cases h
    · cases h

/-- A step of the listener or the sweeper is one of their moves. -/
theorem taskStep_cases {own : TaskAction} (h : m.taskStep mac own=some m') : TaskMove m own m' := by
  cases own with
  | browse event =>
    simp only [Mesh.taskStep] at h
    split at h
    · next listening =>
      cases h
      exact .browse event _ listening
    · cases h
  | stopListener =>
    simp only [Mesh.taskStep] at h
    split at h
    · next hboth =>
      cases h
      obtain ⟨listening,signalled⟩ := Bool.and_eq_true_iff.mp hboth
      exact .stopListener listening signalled
    · cases h
  | sweep order now =>
    simp only [Mesh.taskStep] at h
    split at h
    · next sweeping =>
      cases h
      exact .sweep order now _ sweeping
    · cases h
  | stopSweeper =>
    simp only [Mesh.taskStep] at h
    split at h
    · next hboth =>
      cases h
      obtain ⟨sweeping,signalled⟩ := Bool.and_eq_true_iff.mp hboth
      exact .stopSweeper sweeping signalled
    · cases h

/-- A started node takes no step of the start-up. -/
theorem startStep_running (h : m.start=.running) (own : StartAction) : m.startStep own=none := by
  cases hs : m.startStep own with
  | none => rfl
  | some m' =>
    cases startStep_cases hs with
    | announce snapshot hstart | announceFailed snapshot hstart | listen snapshot hstart
      | abandon snapshot hstart | listenOnly hstart | listenFailed hstart
      | upsert snapshot now hstart => cases h.symm.trans hstart

/-- A step of the shutdown is the next part of it. -/
theorem shutdownStep_rank {own : ShutdownAction} (h : m.shutdownStep own=some m') :
    shutdownRank m'.shutdown<shutdownRank m.shutdown := by
  cases shutdownStep_cases h with
  | signal hstart hphase | clone hphase | skip hphase | unregister announcement hphase
    | remove announcement hphase | join hphase =>
    simp only [hphase,shutdownRank,Nat.reduceLT]

/-- No step takes the shutdown back. -/
theorem step_shutdownRank (h : MeshRuntime.step mac m action=some m') :
    shutdownRank m'.shutdown ≤ shutdownRank m.shutdown := by
  cases action with
  | shutdown own => exact (shutdownStep_rank h).le
  | start own | call own | tick own | task own => rw [(step_frame h).shutdown nofun]

/-- The signal is that the shutdown is no longer idle. -/
theorem signalled_iff : m.signalled=true ↔ shutdownRank m.shutdown<5 := by
  rw [Mesh.signalled,decide_eq_true_eq]
  cases m.shutdown <;>
    simp only [ne_eq,reduceCtorEq,not_false_eq_true,not_true_eq_false,shutdownRank,Nat.reduceLT]

/-- Once called, the shutdown stays called. -/
theorem Called.step (h : Called m) (hs : MeshRuntime.step mac m action=some m') : Called m' := by
  refine ⟨?_,signalled_iff.mpr ((step_shutdownRank hs).trans_lt (signalled_iff.mp h.signalled))⟩
  cases action with
  | start own => exact nomatch (startStep_running h.running own).symm.trans hs
  | call own | tick own | task own | shutdown own =>
    rw [(step_frame hs).start nofun]
    exact h.running

/-- Only a started node is shut down. -/
theorem step_called (h : m.signalled=true → m.start=.running)
    (hs : MeshRuntime.step mac m action=some m') : m'.signalled=true → m'.start=.running := by
  intro hsignalled
  cases hbefore : m.signalled with
  | true => exact (Called.step ⟨h hbefore,hbefore⟩ hs).running
  | false =>
    cases action with
    | shutdown own =>
      cases shutdownStep_cases hs with
      | signal hstart hphase => exact hstart
      | clone hphase | skip hphase | unregister announcement hphase
        | remove announcement hphase | join hphase =>
        rw [Mesh.signalled,hphase] at hbefore
        cases hbefore
    | start own | call own | tick own | task own =>
      rw [Mesh.signalled,(step_frame hs).shutdown nofun,←Mesh.signalled,hbefore] at hsignalled
      cases hsignalled

/-- Once called, a task that ended is not started again. -/
theorem Called.ended (h : Called m) (hs : MeshRuntime.step mac m action=some m') :
    (m.sweeping=false → m'.sweeping=false) ∧ (m.listening=false → m'.listening=false) ∧
      (Silenced m → Silenced m') := by
  cases action with
  | start own => exact nomatch (startStep_running h.running own).symm.trans hs
  | call own =>
    rcases callStep_cases hs with ⟨update,-,rfl⟩|⟨i,call,phase,shared,-,-,rfl⟩ <;>
      exact ⟨id,id,id⟩
  | tick own =>
    refine ⟨?_,?_,fun hsilent => ?_⟩
    · cases tickStep_cases hs <;> exact id
    · cases tickStep_cases hs <;> exact id
    · cases tickStep_cases hs with
      | stop => exact Or.inr rfl
      | clone hphase | announce outcome snapshot hphase | upsert snapshot now hphase =>
        rcases hsilent with hsilent|hsilent <;> cases hphase.symm.trans hsilent
  | task own =>
    cases taskStep_cases hs with
    | browse event registry listening =>
      exact ⟨id,fun hended => (nomatch listening.symm.trans hended),id⟩
    | stopListener => exact ⟨id,fun _ => rfl,id⟩
    | sweep => exact ⟨id,id,id⟩
    | stopSweeper => exact ⟨fun _ => rfl,id,id⟩
  | shutdown own => cases shutdownStep_cases hs <;> exact ⟨id,id,id⟩

/-- A move of a call is its next part. -/
theorem callMove_rank {i : ℕ} {call : Call} {own : CallAction} {phase : CallPhase}
    {shared : Shared} (h : CallMove mac m i call own phase shared) :
    callRank phase<callRank call.phase := by
  cases h with
  | mutate hphase | reject hphase | refresh hphase | skip hphase | announce snapshot hphase
    | announceFailed snapshot hphase | upsert snapshot now hphase =>
    simp only [hphase,callRank,Nat.reduceLT]

/-- A call stays where it is or takes its next part, and does so when it goes on. -/
theorem step_call {i : ℕ} {call : Call} (hcall : m.calls[i]?=some call)
    (hs : MeshRuntime.step mac m action=some m') :
    m'.calls[i]?=some call ∧ ¬advances i m action ∨
      ∃ call', m'.calls[i]?=some call' ∧ callRank call'.phase<callRank call.phase := by
  cases action with
  | call own =>
    rcases callStep_cases hs with ⟨update,rfl,rfl⟩|⟨k,other,phase,shared,hother,hmove,rfl⟩
    · refine Or.inl ⟨?_,id⟩
      have hlt := (List.getElem?_eq_some_iff.mp hcall).1
      exact (List.getElem?_append_left hlt).trans hcall
    · have hcalls : ({ m.setPhase k other phase with shared } : Mesh).calls=
          m.calls.set k { other with phase } := rfl
      rw [hcalls]
      by_cases hk : k=i
      · subst hk
        cases hother.symm.trans hcall
        have hlt := (List.getElem?_eq_some_iff.mp hcall).1
        exact Or.inr ⟨_,List.getElem?_set_self hlt,callMove_rank hmove⟩
      · refine Or.inl ⟨(List.getElem?_set_ne hk).trans hcall,?_⟩
        cases hmove <;> exact hk
  | start own | tick own | task own | shutdown own =>
    rw [((step_frame hs).calls nofun).1]
    exact Or.inl ⟨hcall,id⟩

/-- Only the beginning of a call lengthens the list of calls. -/
theorem step_calls_length (hs : MeshRuntime.step mac m action=some m')
    (hbegins : ∀ update, action ≠ .call (.begin update)) : m'.calls.length=m.calls.length := by
  cases action with
  | call own =>
    rcases callStep_cases hs with ⟨update,rfl,-⟩|⟨k,other,phase,shared,-,-,rfl⟩
    · exact absurd rfl (hbegins update)
    · exact List.length_set
  | start own | tick own | task own | shutdown own => rw [((step_frame hs).calls nofun).1]

/-- A call that did not return can go on. -/
theorem advances_enabled {i : ℕ} {call : Call} (hcall : m.calls[i]?=some call)
    (hphase : ¬∃ result, call.phase=.returned result) :
    Enabled (MeshRuntime.step mac) (advances i) m := by
  cases hp : call.phase with
  | mutate =>
    refine Enabled.of_isSome (a := .call (.mutate i)) rfl ?_
    cases hresult : call.update.apply m.shared.localAgent <;>
      simp only [MeshRuntime.step,Mesh.callStep,hcall,hp,hresult,Option.isSome_some]
  | refresh =>
    refine Enabled.of_isSome (a := .call (.refresh i)) rfl ?_
    cases hadvertise : m.config.advertiseLocal <;>
      simp only [MeshRuntime.step,Mesh.callStep,hcall,hp,hadvertise,Bool.false_eq_true,if_true,
        if_false,Option.isSome_some]
  | announce snapshot =>
    refine Enabled.of_isSome (a := .call (.announce i (.ok ()))) rfl ?_
    simp only [MeshRuntime.step,Mesh.callStep,hcall,hp,Option.isSome_some]
  | upsert snapshot =>
    refine Enabled.of_isSome (a := .call (.upsert i 0)) rfl ?_
    simp only [MeshRuntime.step,Mesh.callStep,hcall,hp,Option.isSome_some]
  | returned result => exact absurd ⟨result,hp⟩ hphase

/-- A shutdown that waits for nothing can go on. -/
theorem shutsDown_enabled (hsignalled : m.signalled=true) (hreturned : m.shutdown ≠ .returned)
    (hready : m.shutdown=.join → m.sweeping=false ∧ m.listening=false ∧ Silenced m) :
    Enabled (MeshRuntime.step mac) shutsDown m := by
  cases hp : m.shutdown with
  | idle =>
    rw [Mesh.signalled,hp] at hsignalled
    cases hsignalled
  | signalled =>
    refine Enabled.of_isSome (a := .shutdown .clone) trivial ?_
    simp only [MeshRuntime.step,Mesh.shutdownStep,hp,Option.isSome_some]
  | unregister announcement =>
    refine Enabled.of_isSome (a := .shutdown .unregister) trivial ?_
    simp only [MeshRuntime.step,Mesh.shutdownStep,hp,Option.isSome_some]
  | remove announcement =>
    refine Enabled.of_isSome (a := .shutdown .remove) trivial ?_
    simp only [MeshRuntime.step,Mesh.shutdownStep,hp,Option.isSome_some]
  | join =>
    refine Enabled.of_isSome (a := .shutdown .join) trivial ?_
    obtain ⟨hsweeping,hlistening,hheartbeat|hheartbeat⟩ := hready hp <;>
      simp only [MeshRuntime.step,Mesh.shutdownStep,hp,hheartbeat,hsweeping,hlistening,
        Option.isSome_some]
  | returned => exact absurd hp hreturned

end Steps

section Runs

variable {mac : Mac} {ρ : InfiniteRun (MeshRuntime.step mac)}

/-- A run that starts with a new node calls its shutdown only when it is started. -/
theorem called_of_signalled {config : ZeroConfConfig} (hinit : Mesh.init mac config=.ok (ρ.state 0))
    {n : ℕ} (h : (ρ.state n).signalled=true) : Called (ρ.state n) := by
  have hnew : (ρ.state 0).signalled=true → (ρ.state 0).start=.running := by
    obtain ⟨a,-,hm⟩ := LocalEntry.init_ok hinit
    rw [hm]
    exact nofun
  have hall := ρ.always (P := fun m => m.signalled=true → m.start=.running)
    (fun m action m' h hs => step_called h hs) hnew n
  exact ⟨hall h,h⟩

/-- A sweeper that was told to stop ends. -/
theorem Fair.sweeping (h : Fair ρ) : ρ.LeadsTo Called fun m => m.sweeping=false := by
  refine h.sweeper.leadsTo (fun m action m' hcalled _ hs => Or.inl (hcalled.step hs))
    (fun m hcalled hruns => ?_) fun m action m' _ _ hkind hs => ?_
  · refine Enabled.of_isSome (a := .task .stopSweeper) rfl ?_
    simp only [MeshRuntime.step,Mesh.taskStep,Bool.of_not_eq_false hruns,hcalled.signalled,
      Bool.and_true,if_true,Option.isSome_some]
  · cases hkind
    have hmove : m.taskStep mac .stopSweeper=some m' := hs
    cases taskStep_cases hmove
    rfl

/-- A listener that was told to stop ends. -/
theorem Fair.listening (h : Fair ρ) : ρ.LeadsTo Called fun m => m.listening=false := by
  refine h.listener.leadsTo (fun m action m' hcalled _ hs => Or.inl (hcalled.step hs))
    (fun m hcalled hruns => ?_) fun m action m' _ _ hkind hs => ?_
  · refine Enabled.of_isSome (a := .task .stopListener) rfl ?_
    simp only [MeshRuntime.step,Mesh.taskStep,Bool.of_not_eq_false hruns,hcalled.signalled,
      Bool.and_true,if_true,Option.isSome_some]
  · cases hkind
    have hmove : m.taskStep mac .stopListener=some m' := hs
    cases taskStep_cases hmove
    rfl

/-- A tick that has begun comes to an end. -/
theorem Fair.waiting (h : Fair ρ) :
    ρ.LeadsTo Called fun m => Silenced m ∨ m.heartbeat=.waiting := by
  refine h.ticking.leadsTo_rank (fun m => tickRank m.heartbeat)
    (fun m action m' hcalled hbusy hs => ?_) (fun m _ hbusy => ?_)
    fun m action m' hcalled _ hkind hs => ?_
  · cases action with
    | start own => exact nomatch (startStep_running hcalled.running own).symm.trans hs
    | tick own =>
      cases tickStep_cases hs with
      | clone hphase | stop hphase => exact absurd (Or.inr hphase) hbusy
      | announce outcome snapshot hphase =>
        refine Or.inl ⟨hcalled.step hs,?_⟩
        simp only [hphase,tickRank,Nat.reduceLeDiff]
      | upsert => exact Or.inr (Or.inr rfl)
    | call own | task own | shutdown own =>
      rw [(step_frame hs).heartbeat nofun nofun]
      exact Or.inl ⟨hcalled.step hs,le_rfl⟩
  · cases hphase : m.heartbeat with
    | notSpawned => exact absurd (Or.inl (Or.inl hphase)) hbusy
    | waiting => exact absurd (Or.inr hphase) hbusy
    | announce snapshot =>
      refine Enabled.of_isSome (a := .tick (.announce (.ok ()))) trivial ?_
      simp only [MeshRuntime.step,Mesh.tickStep,hphase,Option.isSome_some]
    | upsert snapshot =>
      refine Enabled.of_isSome (a := .tick (.upsert 0)) trivial ?_
      simp only [MeshRuntime.step,Mesh.tickStep,hphase,Option.isSome_some]
    | stopped => exact absurd (Or.inl (Or.inr hphase)) hbusy
  · cases action with
    | tick own =>
      cases tickStep_cases hs with
      | clone | stop => cases hkind
      | announce outcome snapshot hphase =>
        refine Or.inl ⟨hcalled.step hs,?_⟩
        simp only [hphase,tickRank,Nat.reduceLT]
      | upsert => exact Or.inr (Or.inr rfl)
    | start own | call own | task own | shutdown own => cases hkind

/-- A heartbeat that was told to stop ends. -/
theorem Fair.silenced (h : Fair ρ) : ρ.LeadsTo Called Silenced := by
  refine h.heartbeat.leadsTo (fun m action m' hcalled _ hs => Or.inl (hcalled.step hs)) ?_
    fun m action m' _ _ hkind hs => ?_
  · intro n hn
    obtain ⟨k,hk,hsilent|hwaiting⟩ := h.waiting n hn
    · exact ⟨k,hk,Or.inl hsilent⟩
    · have hcalled := ρ.stays (fun m action m' hc hs => Called.step hc hs) hn hk
      refine ⟨k,hk,Or.inr (Enabled.of_isSome (a := .tick .stop) rfl ?_)⟩
      simp only [MeshRuntime.step,Mesh.tickStep,hwaiting,hcalled.signalled,if_true,
        Option.isSome_some]
  · cases hkind
    have hmove : m.tickStep .stop=some m' := hs
    cases tickStep_cases hmove
    exact Or.inr rfl

/-- The tasks have ended. -/
def Ended (m : Mesh) : Prop := m.sweeping=false ∧ m.listening=false ∧ Silenced m

/-- Once called, tasks that have ended stay so. -/
theorem Called.keeps_ended {m m' : Mesh} {action : Action} (h : Called m) (hended : Ended m)
    (hs : MeshRuntime.step mac m action=some m') : Ended m' := by
  obtain ⟨hsweeping,hlistening,hsilent⟩ := h.ended hs
  exact ⟨hsweeping hended.1,hlistening hended.2.1,hsilent hended.2.2⟩

/-- The tasks of a node whose shutdown was called end. -/
theorem Fair.ended (h : Fair ρ) : ρ.LeadsTo Called Ended := by
  have hcalled : ∀ m action m', Called m → MeshRuntime.step mac m action=some m' → Called m' :=
    fun m action m' hc hs => hc.step hs
  refine h.sweeping.and hcalled (fun m action m' hc hq hs => (hc.ended hs).1 hq) ?_
  exact h.listening.and hcalled (fun m action m' hc hq hs => (hc.ended hs).2.1 hq) h.silenced

/-- Only a shutdown that returned has nothing left to do. -/
theorem shutdownRank_eq_zero {phase : ShutdownPhase} : shutdownRank phase=0 ↔ phase=.returned := by
  cases phase <;> simp only [shutdownRank,reduceCtorEq,one_ne_zero]

/-- The shutdown of a started node returned, and its tasks have ended. -/
structure Down (m : Mesh) : Prop where
  /-- The shutdown was called on a started node. -/
  called : Called m
  /-- The tasks have ended. -/
  ended : Ended m
  /-- The shutdown returned. -/
  returned : m.shutdown=.returned

/-- A node that is down stays down. -/
theorem Down.step {m m' : Mesh} {action : Action} (h : Down m)
    (hs : MeshRuntime.step mac m action=some m') : Down m' := by
  refine ⟨h.called.step hs,h.called.keeps_ended h.ended hs,shutdownRank_eq_zero.mp ?_⟩
  have hle := step_shutdownRank hs
  rw [h.returned] at hle
  exact Nat.le_zero.mp hle

/-- A shutdown that was called returns, when all tasks have ended. -/
theorem Fair.down (h : Fair ρ) : ρ.LeadsTo Called Down := by
  have hcalled : ∀ m action m', Called m → MeshRuntime.step mac m action=some m' → Called m' :=
    fun m action m' hc hs => hc.step hs
  have hready : ρ.LeadsTo Called fun m => Ended m ∧ Called m :=
    h.ended.and hcalled (fun m action m' hc hq hs => hc.keeps_ended hq hs) fun n hn => ⟨n,le_rfl,hn⟩
  refine hready.trans (h.shutdown.leadsTo_rank (fun m => shutdownRank m.shutdown)
    (fun m action m' hp _ hs => ?_) (fun m hp hbusy => ?_) fun m action m' hp _ hkind hs => ?_)
  · exact Or.inl ⟨⟨hp.2.keeps_ended hp.1 hs,hp.2.step hs⟩,step_shutdownRank hs⟩
  · exact shutsDown_enabled hp.2.signalled (fun hr => hbusy ⟨hp.2,hp.1,hr⟩) fun _ => hp.1
  · cases action with
    | shutdown own =>
      exact Or.inl ⟨⟨hp.2.keeps_ended hp.1 hs,hp.2.step hs⟩,shutdownStep_rank hs⟩
    | start own | call own | tick own | task own => cases hkind

/-- A call has returned. -/
def HasReturned (i : ℕ) (m : Mesh) : Prop :=
  ∃ call result, m.calls[i]?=some call ∧ call.phase=.returned result

/-- What is left to do of a call. -/
def leftToDo (i : ℕ) (m : Mesh) : ℕ := m.calls[i]?.elim 0 fun call => callRank call.phase

/-- A call that returned stays so. -/
theorem HasReturned.step {i : ℕ} {m m' : Mesh} {action : Action} (h : HasReturned i m)
    (hs : MeshRuntime.step mac m action=some m') : HasReturned i m' := by
  obtain ⟨call,result,hcall,hphase⟩ := h
  rcases step_call hcall hs with ⟨hkept,-⟩|⟨call',-,hless⟩
  · exact ⟨call,result,hkept,hphase⟩
  · rw [hphase] at hless
    exact absurd hless (Nat.not_lt_zero _)

/-- Every call returns. -/
theorem Fair.call (h : Fair ρ) (i : ℕ) :
    ρ.LeadsTo (fun m => ∃ call, m.calls[i]?=some call) (HasReturned i) := by
  refine (h.calls i).leadsTo_rank (leftToDo i) (fun m action m' hp _ hs => ?_)
    (fun m hp hbusy => ?_) fun m action m' hp _ hkind hs => ?_
  · obtain ⟨call,hcall⟩ := hp
    refine Or.inl ?_
    rcases step_call hcall hs with ⟨hkept,-⟩|⟨call',hcall',hless⟩
    · exact ⟨⟨call,hkept⟩,by rw [leftToDo,leftToDo,hkept,hcall]⟩
    · refine ⟨⟨call',hcall'⟩,?_⟩
      rw [leftToDo,leftToDo,hcall',hcall]
      exact hless.le
  · obtain ⟨call,hcall⟩ := hp
    refine advances_enabled hcall fun ⟨result,hphase⟩ => ?_
    exact hbusy ⟨call,result,hcall,hphase⟩
  · obtain ⟨call,hcall⟩ := hp
    rcases step_call hcall hs with ⟨-,hidle⟩|⟨call',hcall',hless⟩
    · exact absurd hkind hidle
    · refine Or.inl ⟨⟨call',hcall'⟩,?_⟩
      rw [leftToDo,leftToDo,hcall',hcall]
      exact hless

/-- A node that is down and has no call in progress. -/
structure AtRest (m : Mesh) : Prop where
  /-- The node is down. -/
  down : Down m
  /-- All calls returned. -/
  calls : ∀ call ∈ m.calls, ∃ result, call.phase=.returned result

/-- At rest, only a call can begin. -/
theorem AtRest.step {m m' : Mesh} {action : Action} (h : AtRest m)
    (hs : MeshRuntime.step mac m action=some m') : ∃ update, action=.call (.begin update) := by
  obtain ⟨hsweeping,hlistening,hsilent⟩ := h.down.ended
  cases action with
  | start own => exact nomatch (startStep_running h.down.called.running own).symm.trans hs
  | call own =>
    rcases callStep_cases hs with ⟨update,rfl,-⟩|⟨i,call,phase,shared,hcall,hmove,-⟩
    · exact ⟨update,rfl⟩
    · obtain ⟨result,hphase⟩ := h.calls call (List.mem_of_getElem? hcall)
      have hless := callMove_rank hmove
      rw [hphase] at hless
      exact absurd hless (Nat.not_lt_zero _)
  | tick own =>
    cases tickStep_cases hs with
    | clone hphase | announce outcome snapshot hphase | upsert snapshot now hphase | stop hphase =>
      rcases hsilent with hsilent|hsilent <;> cases hphase.symm.trans hsilent
  | task own =>
    cases taskStep_cases hs with
    | browse event registry listening | stopListener listening =>
      cases listening.symm.trans hlistening
    | sweep order now registry sweeping | stopSweeper sweeping =>
      cases sweeping.symm.trans hsweeping
  | shutdown own =>
    have hless := shutdownStep_rank hs
    rw [h.down.returned] at hless
    exact absurd hless (Nat.not_lt_zero _)

/-- Without new calls there are as many calls as before. -/
theorem calls_length {n : ℕ}
    (hbegins : ∀ k, n ≤ k → ∀ update, ρ.action k ≠ some (.call (.begin update))) {k : ℕ}
    (hk : n ≤ k) : (ρ.state k).calls.length=(ρ.state n).calls.length := by
  induction k, hk using Nat.le_induction with
  | base => rfl
  | succ k hk ih =>
    rw [←ih]
    cases haction : ρ.action k with
    | none => rw [ρ.rests k haction]
    | some action =>
      exact step_calls_length (ρ.acts k action haction)
        fun update he => hbegins k hk update (he ▸ haction)

/-- Without new calls all calls return. -/
theorem Fair.calls_return (h : Fair ρ) {n : ℕ}
    (hbegins : ∀ k, n ≤ k → ∀ update, ρ.action k ≠ some (.call (.begin update))) :
    ∀ᶠ k in atTop, ∀ call ∈ (ρ.state k).calls, ∃ result, call.phase=.returned result := by
  have hreturn : ∀ᶠ k in atTop, ∀ i ∈ Finset.range (ρ.state n).calls.length,
      HasReturned i (ρ.state k) := by
    refine (eventually_all_finset _).mpr fun i hi => ?_
    have hlt := Finset.mem_range.mp hi
    exact (h.call i).eventually (fun m action m' hr hs => hr.step hs)
      ⟨_,List.getElem?_eq_getElem hlt⟩
  filter_upwards [hreturn,eventually_ge_atTop n] with k hk hle call hcall
  obtain ⟨i,hi,rfl⟩ := List.getElem_of_mem hcall
  obtain ⟨call,result,hfound,hphase⟩ :=
    hk i (Finset.mem_range.mpr (calls_length hbegins hle ▸ hi))
  rw [List.getElem?_eq_getElem hi,Option.some.injEq] at hfound
  exact ⟨result,hfound ▸ hphase⟩

/-- Without new calls a node that is at rest does not change. -/
theorem AtRest.stays {n : ℕ} (h : AtRest (ρ.state n))
    (hbegins : ∀ k, n ≤ k → ∀ update, ρ.action k ≠ some (.call (.begin update))) {k : ℕ}
    (hk : n ≤ k) : ρ.state k=ρ.state n := by
  induction k, hk using Nat.le_induction with
  | base => rfl
  | succ k hk ih =>
    cases haction : ρ.action k with
    | none => rw [ρ.rests k haction,ih]
    | some action =>
      obtain ⟨update,rfl⟩ := AtRest.step (ih ▸ h) (ρ.acts k action haction)
      exact absurd haction (hbegins k hk update)

/-- A schedule that ends at rest, and after which nothing happens, is fair. -/
theorem fair_lasso {m m' : Mesh} {actions : List Action}
    {hrun : exec (MeshRuntime.step mac) m actions=some m'} (h : AtRest m') :
    Fair (InfiniteRun.lasso hrun (fun _ => none) nofun) := by
  have hkind : ∀ kind : Mesh → Action → Prop, (∀ update, ¬kind m' (.call (.begin update))) →
      (InfiniteRun.lasso hrun (fun _ => none) nofun).Compassionate kind := by
    intro kind hnone
    refine lasso_compassionate ?_
    rintro ⟨action,next,hkind,hs⟩
    obtain ⟨update,rfl⟩ := h.step hs
    exact absurd hkind (hnone update)
  exact
    { shutdown := (hkind shutsDown fun _ => id).just
      ticking := (hkind ticks fun _ => id).just
      heartbeat := hkind stopsTicking fun _ => nofun
      listener := (hkind stopsListening fun _ => nofun).just
      sweeper := (hkind stopsSweeping fun _ => nofun).just
      calls := fun i => (hkind (advances i) fun _ => id).just }

end Runs

/-- In every fair run without end of a new node, whatever the daemon answers and in whatever order
its parties move: every update call that is begun returns for good. Once the shutdown is called,
the heartbeat, the sweeper and the listener end and the shutdown returns. When moreover no more
calls begin from some time on, the node comes to rest: its state does not change any more. -/
theorem node_comes_to_rest (mac : Mac) (config : ZeroConfConfig)
    (ρ : InfiniteRun (MeshRuntime.step mac)) (hinit : Mesh.init mac config=.ok (ρ.state 0))
    (hfair : Fair ρ) :
    (∀ n, ∀ i<(ρ.state n).calls.length, ∀ᶠ k in atTop, HasReturned i (ρ.state k)) ∧
    ∀ n, (ρ.state n).signalled=true → (∀ᶠ k in atTop, Down (ρ.state k)) ∧
      ((∀ᶠ k in atTop, ∀ update, ρ.action k ≠ some (.call (.begin update))) →
        ∃ m, AtRest m ∧ ∀ᶠ k in atTop, ρ.state k=m) := by
  refine ⟨fun n i hi => ?_,fun n hn => ?_⟩
  · exact (hfair.call i).eventually (fun m action m' hr hs => hr.step hs)
      ⟨_,List.getElem?_eq_getElem hi⟩
  · have hdown : ∀ᶠ k in atTop, Down (ρ.state k) :=
      hfair.down.eventually (fun m action m' hd hs => hd.step hs) (called_of_signalled hinit hn)
    refine ⟨hdown,fun hquiet => ?_⟩
    obtain ⟨last,hlast⟩ := eventually_atTop.mp hquiet
    obtain ⟨k,⟨hd,hcalls⟩,hk⟩ :=
      ((hdown.and (hfair.calls_return hlast)).and (eventually_ge_atTop last)).exists
    have hrest : AtRest (ρ.state k) := ⟨hd,hcalls⟩
    exact ⟨ρ.state k,hrest,eventually_atTop.mpr ⟨k,fun l hl =>
      hrest.stays (fun j hj => hlast j (hk.trans hj)) hl⟩⟩

/-- A tick and a call are in progress when the shutdown is called, and end after the withdrawal. -/
def overlappingShutdown : List Action :=
  startUp ++ [.call (.begin (.status .busy)),.tick .clone,.shutdown .signal,.call (.mutate 0),
    .shutdown .clone,.tick (.announce (.error (.mdns "timeout"))),.shutdown .unregister,
    .call (.refresh 0),.tick (.upsert 1),.shutdown .remove,.tick .stop,.call (.announce 0 (.ok ())),
    .task .stopListener,.task .stopSweeper,.shutdown .join,.call (.upsert 0 2)]

/-- The small node after this shutdown. -/
def restingNode : Mesh :=
  (exec (step Mac.recorded) sampleNode overlappingShutdown).get (by decide +kernel)

/-- The small node comes to rest. -/
theorem node_comes_to_rest_overlapping : ∃ m, AtRest m ∧ ∃ ρ : InfiniteRun (step Mac.recorded),
    ρ.state 0=sampleNode ∧ ∀ᶠ k in atTop, ρ.state k=m := by
  have hrest : AtRest restingNode :=
    ⟨⟨⟨by decide +kernel,by decide +kernel⟩,⟨by decide +kernel,by decide +kernel,
      Or.inr (by decide +kernel)⟩,by decide +kernel⟩,by decide +kernel⟩
  have hrun : exec (step Mac.recorded) sampleNode overlappingShutdown=some restingNode :=
    (Option.some_get _).symm
  have hinit : Mesh.init Mac.recorded sampleConfig=.ok sampleNode := Mesh.init_initial _
  let ρ := InfiniteRun.lasso hrun (fun _ => none) nofun
  have hcalled : (ρ.state overlappingShutdown.length).signalled=true := by
    rw [lasso_state le_rfl]
    exact hrest.down.called.signalled
  have hquiet : ∀ᶠ k in atTop, ∀ update, ρ.action k ≠ some (.call (.begin update)) := by
    filter_upwards [eventually_ge_atTop overlappingShutdown.length] with k hk
    rw [lasso_action hk]
    exact fun update => nofun
  obtain ⟨m,hm,hall⟩ := ((node_comes_to_rest Mac.recorded sampleConfig ρ hinit
    (fair_lasso hrest)).2 _ hcalled).2 hquiet
  exact ⟨m,hm,ρ,rfl,hall⟩

end MeshPresence.NodeProgress
