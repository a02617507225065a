import MeshPresence.MeshRuntime

/-!
# What a step of the mesh does to the local announcement

Every step of every party replaces at most one piece of pending work by another
and changes the shared state in one of a few ways. The classification is proved
once from the step function; invariants of runs are derived from it.
-/

namespace MeshPresence.MeshEffects

open AgentTypes AgentConfig AgentWire AgentRegistry AgentListener AnnouncementInvariant
open OrderedPublication MeshRuntime

/-- Work is pending for the start-up, the heartbeat or a call. -/
theorem mem_pendings {m : Mesh} {p : Pending} :
    p ∈ m.pendings ↔ m.start.pending=some p ∨ m.heartbeat.pending=some p ∨
      p ∈ callWork m.calls := by
  simp only [Mesh.pendings,List.mem_append,Option.mem_toList,or_assoc]

/-- The pending work after a step is that before it with one piece replaced. -/
structure Work (m : Mesh) (old new : Option Pending) (m' : Mesh) : Prop where
  /-- The old piece was pending. -/
  was : ∀ p, old=some p → p ∈ m.pendings
  /-- Only the new piece is added. -/
  only : ∀ p ∈ m'.pendings, p ∈ m.pendings ∨ new=some p
  /-- Only the old piece is lost. -/
  kept : ∀ p ∈ m.pendings, old=some p ∨ p ∈ m'.pendings
  /-- The new piece is pending. -/
  now : ∀ p, new=some p → p ∈ m'.pendings

/-- Work of the start-up is replaced. -/
theorem Work.ofStart {m m' : Mesh} {old new : Option Pending} (hold : m.start.pending=old)
    (hnew : m'.start.pending=new) (hheartbeat : m'.heartbeat.pending=m.heartbeat.pending)
    (hcalls : m'.calls=m.calls) : Work m old new m' where
  was := fun p hp => mem_pendings.mpr (Or.inl (hold.trans hp))
  only := fun p hp => by
    rw [mem_pendings,hheartbeat,hcalls,hnew] at hp
    exact hp.elim Or.inr fun hp => Or.inl (mem_pendings.mpr (Or.inr hp))
  kept := fun p hp => by
    rw [mem_pendings,←hheartbeat,←hcalls,hold] at hp
    exact hp.imp_right fun hp => mem_pendings.mpr (Or.inr hp)
  now := fun p hp => mem_pendings.mpr (Or.inl (hnew.trans hp))

/-- Work of the heartbeat is replaced. -/
theorem Work.ofHeartbeat {m m' : Mesh} {old new : Option Pending}
    (hold : m.heartbeat.pending=old) (hnew : m'.heartbeat.pending=new) (hstart : m'.start=m.start)
    (hcalls : m'.calls=m.calls) : Work m old new m' where
  was := fun p hp => mem_pendings.mpr (Or.inr (Or.inl (hold.trans hp)))
  only := fun p hp => by
    rw [mem_pendings,hstart,hcalls,hnew] at hp
    rw [mem_pendings]
    tauto
  kept := fun p hp => by
    rw [mem_pendings,←hstart,←hcalls,hold] at hp
    rw [mem_pendings]
    tauto
  now := fun p hp => mem_pendings.mpr (Or.inr (Or.inl (hnew.trans hp)))

/-- Work of one call is replaced. -/
theorem Work.ofCall {m m' : Mesh} {i : ℕ} {call : Call} {phase : CallPhase}
    {old new : Option Pending} (hcall : m.calls[i]?=some call) (hold : call.phase.pending=old)
    (hnew : phase.pending=new) (hstart : m'.start=m.start) (hheartbeat : m'.heartbeat=m.heartbeat)
    (hcalls : m'.calls=m.calls.set i { call with phase }) : Work m old new m' where
  was := fun p hp => mem_pendings.mpr (Or.inr (Or.inr (work_mem hcall (hold.trans hp))))
  only := fun p hp => by
    rw [mem_pendings,hstart,hheartbeat,hcalls] at hp
    rw [mem_pendings]
    rcases hp with hp|hp|hp
    · exact Or.inl (Or.inl hp)
    · exact Or.inl (Or.inr (Or.inl hp))
    · exact (work_of_mem_set hp).imp (fun hp => Or.inr (Or.inr hp)) hnew.symm.trans
  kept := fun p hp => by
    rw [mem_pendings] at hp
    rw [mem_pendings,hstart,hheartbeat,hcalls]
    rcases hp with hp|hp|hp
    · exact Or.inr (Or.inl hp)
    · exact Or.inr (Or.inr (Or.inl hp))
    · exact (work_mem_set_of_mem hcall hp).imp hold.symm.trans fun hp => Or.inr (Or.inr hp)
  now := fun p hp => by
    rw [mem_pendings,hcalls]
    exact Or.inr (Or.inr (work_mem_set_new hcall (hnew.trans hp)))

/-- Equal pending work is no change. -/
theorem Work.same {m m' : Mesh} (h : m'.pendings=m.pendings) : Work m none none m' where
  was := fun p hp => by cases hp
  only := fun p hp => Or.inl (h ▸ hp)
  kept := fun p hp => Or.inr (h ▸ hp)
  now := fun p hp => by cases hp

/-- Some result that the step receives from the daemon is an error. -/
def fails : Action → Bool
  | .start (.announce outcome) => !outcome.isOk
  | .start (.listen outcome) => !outcome.isOk
  | .call (.announce _ outcome) => !outcome.isOk
  | .tick (.announce outcome) => !outcome.isOk
  | _ => false

/-- The ways in which a step changes the shared state and the pending work. -/
inductive Effect (mac : Mac) (m : Mesh) (action : Action) (m' : Mesh) : Prop where
  /-- Nothing changes. -/
  | quiet (shared : m'.shared=m.shared) (work : Work m none none m')
  /-- The listener fails to start, and the announced service is withdrawn. -/
  | abandon (snapshot : Snapshot) (error : ZeroConfError)
      (source : action=.start (.listen (.error error)))
      (shared : m'.shared=m.shared.unregister snapshot.announcement)
      (work : Work m (some (.upsert snapshot)) none m')
  /-- A discovery-only node has nothing to refresh. -/
  | skip (discovery : m.config.advertiseLocal=false) (shared : m'.shared=m.shared)
      (work : Work m (some .refresh) none m')
  /-- The mutator of a call succeeds and leaves the refresh to do. -/
  | mutate (i : ℕ) (call : Call) (source : action=.call (.mutate i)) (hcall : m.calls[i]?=some call)
      (succeeds : (call.update.apply m.shared.localAgent).isOk=true)
      (shared : m'.shared=m.shared.write mac (.update call.update))
      (work : Work m none (some .refresh) m')
  /-- A tick copies the local announcement. -/
  | clone (tick : action=.tick .clone) (waiting : m.heartbeat=.waiting)
      (shared : m'.shared=m.shared.copied)
      (work : Work m none (some (.announce m.shared.snapshot)) m')
  /-- A call signs and copies the local announcement. -/
  | refresh (advertises : m.config.advertiseLocal=true)
      (shared : m'.shared=(m.shared.sign mac m.config.sharedSecretAuth).copied)
      (work : Work m (some .refresh)
        (some (.announce (m.shared.sign mac m.config.sharedSecretAuth).snapshot)) m')
  /-- A copy is announced; its upsert is next unless the announcement failed. -/
  | announce (snapshot : Snapshot) (source : announced m action=some snapshot)
      (shared : m'.shared=m.shared.announce snapshot) (next : Option Pending)
      (hnext : next=some (.upsert snapshot) ∨ next=none ∧ fails action=true)
      (work : Work m (some (.announce snapshot)) next m')
  /-- A copy is upserted. -/
  | upsert (snapshot : Snapshot) (now : Instant) (source : upserted m action=some snapshot)
      (shared : m'.shared=m.shared.upsertLocal snapshot now)
      (work : Work m (some (.upsert snapshot)) none m')
  /-- The listener handles an event. -/
  | browse (event : BrowseEvent) (task : action=.task (.browse event))
      (shared : m'.shared={ m.shared with
        registry := (Listener.ofConfig m.config).handle mac m.shared.registry event })
      (work : Work m none none m')
  /-- The sweeper evicts. -/
  | sweep (order : AgentOrder) (now : Instant) (task : action=.task (.sweep order now))
      (shared : m'.shared={ m.shared with
        registry := (m.shared.registry.evictStaleAt order now).2 })
      (work : Work m none none m')
  /-- The shutdown withdraws the service. -/
  | withdraw (announcement : AgentAnnouncement) (source : action=.shutdown .unregister)
      (shared : m'.shared=m.shared.unregister announcement) (work : Work m none none m')
  /-- The shutdown removes the local agent. -/
  | remove (announcement : AgentAnnouncement) (source : action=.shutdown .remove)
      (shared : m'.shared={ m.shared with
        registry := (m.shared.registry.removeLocal announcement.agentId).2 })
      (work : Work m none none m')

/-- The moves of the start-up. -/
inductive StartMove (m : Mesh) : StartAction → Mesh → Prop where
  /-- The local service is announced. -/
  | announce (snapshot : Snapshot) (hstart : m.start=.announce snapshot) :
      StartMove m (.announce (.ok ()))
        { m with shared := m.shared.announce snapshot, start := .listen snapshot }
  /-- The announcement fails. -/
  | announceFailed (snapshot : Snapshot) (hstart : m.start=.announce snapshot)
      (error : ZeroConfError) :
      StartMove m (.announce (.error error))
        { m with shared := m.shared.announce snapshot, start := .failed error }
  /-- The listener of an advertising node starts. -/
  | listen (snapshot : Snapshot) (hstart : m.start=.listen snapshot) :
      StartMove m (.listen (.ok ())) { m with start := .upsert snapshot, listening := true }
  /-- The listener fails to start, and the announced service is withdrawn. -/
  | abandon (snapshot : Snapshot) (hstart : m.start=.listen snapshot) (error : ZeroConfError) :
      StartMove m (.listen (.error error))
        { m with shared := m.shared.unregister snapshot.announcement, start := .failed error }
  /-- The listener of a discovery-only node starts. -/
  | listenOnly (hstart : m.start=.listenOnly) :
      StartMove m (.listen (.ok ())) { m with start := .running, listening := true, sweeping := true }
  /-- The listener of a discovery-only node fails to start. -/
  | listenFailed (hstart : m.start=.listenOnly) (error : ZeroConfError) :
      StartMove m (.listen (.error error)) { m with start := .failed error }
  /-- The local agent is upserted. -/
  | upsert (snapshot : Snapshot) (now : Instant) (hstart : m.start=.upsert snapshot)
      (hheartbeat : m.heartbeat=.notSpawned) :
      StartMove m (.upsert now)
        { m with shared := m.shared.upsertLocal snapshot now, start := .running
                 heartbeat := .waiting, sweeping := true }

/-- A step of the start-up is one of its moves. -/
theorem startStep_cases {m m' : Mesh} {action : StartAction} (h : m.startStep action=some m') :
    StartMove m action m' := by
  cases action with
  | announce outcome =>
    simp only [Mesh.startStep] at h
    split at h
    · next snapshot hstart =>
      cases outcome with
      | ok _ =>
        cases h
        exact .announce snapshot hstart
      | error error =>
        cases h
        exact .announceFailed snapshot hstart error
    · cases h
  | listen outcome =>
    simp only [Mesh.startStep] at h
    split at h
    · next snapshot _ hstart =>
      cases h
      exact .listen snapshot hstart
    · next snapshot error hstart =>
      cases h
      exact .abandon snapshot hstart error
    · next hstart =>
      cases h
      exact .listenOnly hstart
    · next error hstart =>
      cases h
      exact .listenFailed hstart error
    · cases h
  | upsert now =>
    simp only [Mesh.startStep] at h
    split at h
    · next snapshot hstart hheartbeat =>
      cases h
      exact .upsert snapshot now hstart hheartbeat
    · cases h

/-- Effects of the start-up. -/
theorem startStep_effect {mac : Mac} {m m' : Mesh} {action : StartAction}
    (h : m.startStep action=some m') : Effect mac m (.start action) m' := by
  cases startStep_cases h with
  | announce snapshot hstart =>
    have hsource : announced m (.start (.announce (.ok ())))=some snapshot := by
      simp only [announced,hstart]
    exact .announce snapshot hsource rfl _ (Or.inl rfl)
      (Work.ofStart (congrArg StartPhase.pending hstart) rfl rfl rfl)
  | announceFailed snapshot hstart error =>
    have hsource : announced m (.start (.announce (.error error)))=some snapshot := by
      simp only [announced,hstart]
    exact .announce snapshot hsource rfl _ (Or.inr ⟨rfl,rfl⟩)
      (Work.ofStart (congrArg StartPhase.pending hstart) rfl rfl rfl)
  | listen snapshot hstart =>
    exact .quiet rfl (Work.same (by simp only [Mesh.pendings,hstart,StartPhase.pending]))
  | abandon snapshot hstart error =>
    exact .abandon _ _ rfl rfl (Work.ofStart (congrArg StartPhase.pending hstart) rfl rfl rfl)
  | listenOnly hstart =>
    exact .quiet rfl (Work.same (by simp only [Mesh.pendings,hstart,StartPhase.pending]))
  | listenFailed hstart error =>
    exact .quiet rfl (Work.same (by simp only [Mesh.pendings,hstart,StartPhase.pending]))
  | upsert snapshot now hstart hheartbeat =>
    have hspawned : TickPhase.waiting.pending=m.heartbeat.pending := by
      rw [hheartbeat]
      rfl
    exact .upsert snapshot now (by simp only [upserted,hstart]) rfl
      (Work.ofStart (congrArg StartPhase.pending hstart) rfl hspawned rfl)

/-- Effects of the heartbeat. -/
theorem tickStep_effect {mac : Mac} {m m' : Mesh} {action : TickAction}
    (h : m.tickStep action=some m') : Effect mac m (.tick action) m' := by
  cases action with
  | clone =>
    simp only [Mesh.tickStep] at h
    split at h
    · next hheartbeat =>
      cases h
      exact .clone rfl hheartbeat rfl
        (Work.ofHeartbeat (congrArg TickPhase.pending hheartbeat) rfl rfl rfl)
    · cases h
  | announce outcome =>
    simp only [Mesh.tickStep] at h
    split at h
    · next snapshot hheartbeat =>
      cases h
      exact .announce snapshot (by simp only [announced,hheartbeat]) rfl _ (Or.inl rfl)
        (Work.ofHeartbeat (congrArg TickPhase.pending hheartbeat) rfl rfl rfl)
    · cases h
  | upsert now =>
    simp only [Mesh.tickStep] at h
    split at h
    · next snapshot hheartbeat =>
      cases h
      exact .upsert snapshot now (by simp only [upserted,hheartbeat]) rfl
        (Work.ofHeartbeat (congrArg TickPhase.pending hheartbeat) rfl rfl rfl)
    · cases h
  | stop =>
    simp only [Mesh.tickStep] at h
    split at h
    · next hheartbeat =>
      split at h
      · cases h
        exact .quiet rfl (Work.same (by simp only [Mesh.pendings,hheartbeat,TickPhase.pending]))
      · cases h
    · cases h

/-- The moves of one update call: the phase it enters and the shared state it leaves. -/
inductive CallMove (mac : Mac) (m : Mesh) (i : ℕ) (call : Call) :
    CallAction → CallPhase → Shared → Prop where
  /-- The mutator succeeds. -/
  | mutate (hphase : call.phase=.mutate)
      (succeeds : (call.update.apply m.shared.localAgent).isOk=true) :
      CallMove mac m i call (.mutate i) .refresh (m.shared.write mac (.update call.update))
  /-- The mutator fails and the call returns its error. -/
  | reject (hphase : call.phase=.mutate) (error : ZeroConfError) :
      CallMove mac m i call (.mutate i) (.returned (.error error)) m.shared
  /-- An advertising node signs and copies. -/
  | refresh (hphase : call.phase=.refresh) (advertises : m.config.advertiseLocal=true) :
      CallMove mac m i call (.refresh i)
        (.announce (m.shared.sign mac m.config.sharedSecretAuth).snapshot)
        (m.shared.sign mac m.config.sharedSecretAuth).copied
  /-- A discovery-only node has nothing to refresh. -/
  | skip (hphase : call.phase=.refresh) (discovery : m.config.advertiseLocal=false) :
      CallMove mac m i call (.refresh i) (.returned (.ok ())) m.shared
  /-- The copy is announced. -/
  | announce (snapshot : Snapshot) (hphase : call.phase=.announce snapshot) :
      CallMove mac m i call (.announce i (.ok ())) (.upsert snapshot) (m.shared.announce snapshot)
  /-- The announcement fails and the call returns its error. -/
  | announceFailed (snapshot : Snapshot) (hphase : call.phase=.announce snapshot)
      (error : ZeroConfError) :
      CallMove mac m i call (.announce i (.error error)) (.returned (.error error))
        (m.shared.announce snapshot)
  /-- The copy is upserted. -/
  | upsert (snapshot : Snapshot) (now : Instant) (hphase : call.phase=.upsert snapshot) :
      CallMove mac m i call (.upsert i now) (.returned (.ok ())) (m.shared.upsertLocal snapshot now)

/-- A step of the update calls begins a call or is a move of one. -/
theorem callStep_cases {mac : Mac} {m m' : Mesh} {action : CallAction}
    (h : m.callStep mac action=some m') :
    (∃ update, action=.begin update ∧
      m'={ m with calls := m.calls ++ [{ update, phase := .mutate }] }) ∨
    ∃ i call phase shared, m.calls[i]?=some call ∧ CallMove mac m i call action phase shared ∧
      m'={ m.setPhase i call phase with shared } := by
  cases action with
  | begin update =>
    simp only [Mesh.callStep] at h
    split at h
    · cases h
      exact Or.inl ⟨update,rfl,rfl⟩
    · cases h
  | mutate i =>
    simp only [Mesh.callStep] at h
    split at h
    · next call hcall =>
      split at h
      · next hphase =>
        split at h
        · next hresult =>
          cases h
          exact Or.inr ⟨i,call,_,_,hcall,.mutate hphase (by rw [hresult]; rfl),rfl⟩
        · next error _ =>
          cases h
          exact Or.inr ⟨i,call,_,_,hcall,.reject hphase error,rfl⟩
      · cases h
    · cases h
  | refresh i =>
    simp only [Mesh.callStep] at h
    split at h
    · next call hcall =>
      split at h
      · next hphase =>
        split at h
        · next hadvertise =>
          cases h
          exact Or.inr ⟨i,call,_,_,hcall,.refresh hphase hadvertise,rfl⟩
        · next hadvertise =>
          cases h
          exact Or.inr ⟨i,call,_,_,hcall,.skip hphase (Bool.eq_false_iff.mpr hadvertise),rfl⟩
      · cases h
    · cases h
  | announce i outcome =>
    simp only [Mesh.callStep] at h
    split at h
    · next call hcall =>
      split at h
      · next snapshot hphase =>
        cases outcome with
        | ok _ =>
          cases h
          exact Or.inr ⟨i,call,_,_,hcall,.announce snapshot hphase,rfl⟩
        | error error =>
          cases h
          exact Or.inr ⟨i,call,_,_,hcall,.announceFailed snapshot hphase error,rfl⟩
      · cases h
    · cases h
  | upsert i now =>
    simp only [Mesh.callStep] at h
    split at h
    · next call hcall =>
      split at h
      · next snapshot hphase =>
        cases h
        exact Or.inr ⟨i,call,_,_,hcall,.upsert snapshot now hphase,rfl⟩
      · cases h
    · cases h

/-- Effects of the update calls. -/
theorem callStep_effect {mac : Mac} {m m' : Mesh} {action : CallAction}
    (h : m.callStep mac action=some m') : Effect mac m (.call action) m' := by
  rcases callStep_cases h with ⟨update,rfl,rfl⟩|⟨i,call,phase,shared,hcall,hmove,rfl⟩
  · refine .quiet rfl (Work.same ?_)
    simp only [Mesh.pendings,callWork,List.filterMap_append,List.filterMap_cons,
      List.filterMap_nil,CallPhase.pending,List.append_nil]
  · have hwork : Work m call.phase.pending phase.pending { m.setPhase i call phase with shared } :=
      Work.ofCall hcall rfl rfl rfl rfl rfl
    cases hmove with
    | mutate hphase succeeds =>
      rw [hphase] at hwork
      exact .mutate i call rfl hcall succeeds rfl hwork
    | reject hphase error =>
      rw [hphase] at hwork
      exact .quiet rfl hwork
    | refresh hphase advertises =>
      rw [hphase] at hwork
      exact .refresh advertises rfl hwork
    | skip hphase discovery =>
      rw [hphase] at hwork
      exact .skip discovery rfl hwork
    | announce snapshot hphase =>
      have hsource : announced m (.call (.announce i (.ok ())))=some snapshot := by
        simp only [announced,hcall,Option.map_some,hphase]
      rw [hphase] at hwork
      exact .announce snapshot hsource rfl _ (Or.inl rfl) hwork
    | announceFailed snapshot hphase error =>
      have hsource : announced m (.call (.announce i (.error error)))=some snapshot := by
        simp only [announced,hcall,Option.map_some,hphase]
      rw [hphase] at hwork
      exact .announce snapshot hsource rfl _ (Or.inr ⟨rfl,rfl⟩) hwork
    | upsert snapshot now hphase =>
      have hsource : upserted m (.call (.upsert i now))=some snapshot := by
        simp only [upserted,hcall,Option.map_some,hphase]
      rw [hphase] at hwork
      exact .upsert snapshot now hsource rfl hwork

/-- Effects of the listener and the sweeper. -/
theorem taskStep_effect {mac : Mac} {m m' : Mesh} {action : TaskAction}
    (h : m.taskStep mac action=some m') : Effect mac m (.task action) m' := by
  cases action with
  | browse event =>
    simp only [Mesh.taskStep] at h
    split at h
    · cases h
      exact .browse event rfl rfl (Work.same rfl)
    · cases h
  | stopListener =>
    simp only [Mesh.taskStep] at h
    split at h
    · cases h
      exact .quiet rfl (Work.same rfl)
    · cases h
  | sweep order now =>
    simp only [Mesh.taskStep] at h
    split at h
    · cases h
      exact .sweep order now rfl rfl (Work.same rfl)
    · cases h
  | stopSweeper =>
    simp only [Mesh.taskStep] at h
    split at h
    · cases h
      exact .quiet rfl (Work.same rfl)
    · cases h

/-- The moves of the shutdown. -/
inductive ShutdownMove (m : Mesh) : ShutdownAction → Mesh → Prop where
  /-- The signal is sent. -/
  | signal (hstart : m.start=.running) (hphase : m.shutdown=.idle) :
      ShutdownMove m .signal { m with shutdown := .signalled }
  /-- An advertising node copies the local announcement. -/
  | clone (hphase : m.shutdown=.signalled) (advertises : m.config.advertiseLocal=true) :
      ShutdownMove m .clone { m with shutdown := .unregister m.shared.localAgent }
  /-- A discovery-only node has nothing to withdraw. -/
  | skip (hphase : m.shutdown=.signalled) (discovery : m.config.advertiseLocal=false) :
      ShutdownMove m .clone { m with shutdown := .join }
  /-- The service is withdrawn. -/
  | unregister (announcement : AgentAnnouncement) (hphase : m.shutdown=.unregister announcement) :
      ShutdownMove m .unregister
        { m with shared := m.shared.unregister announcement, shutdown := .remove announcement }
  /-- The local agent is removed. -/
  | remove (announcement : AgentAnnouncement) (hphase : m.shutdown=.remove announcement) :
      ShutdownMove m .remove { m with
        shared := { m.shared with
          registry := (m.shared.registry.removeLocal announcement.agentId).2 }
        shutdown := .join }
  /-- All tasks have ended. -/
  | join (hphase : m.shutdown=.join) (hheartbeat : m.heartbeat=.notSpawned ∨ m.heartbeat=.stopped)
      (htasks : m.sweeping=false ∧ m.listening=false) :
      ShutdownMove m .join { m with shutdown := .returned }

/-- A step of the shutdown is one of its moves. -/
theorem shutdownStep_cases {m m' : Mesh} {action : ShutdownAction}
    (h : m.shutdownStep action=some m') : ShutdownMove m action m' := by
  cases action with
  | signal =>
    simp only [Mesh.shutdownStep] at h
    split at h
    · next hstart hphase =>
      cases h
      exact .signal hstart hphase
    · cases h
  | clone =>
    simp only [Mesh.shutdownStep] at h
    split at h
    · next hphase =>
      cases h
      cases hadvertise : m.config.advertiseLocal with
      | false => exact .skip hphase hadvertise
      | true => exact .clone hphase hadvertise
    · cases h
  | unregister =>
    simp only [Mesh.shutdownStep] at h
    split at h
    · next announcement hphase =>
      cases h
      exact .unregister announcement hphase
    · cases h
  | remove =>
    simp only [Mesh.shutdownStep] at h
    split at h
    · next announcement hphase =>
      cases h
      exact .remove announcement hphase
    · cases h
  | join =>
    simp only [Mesh.shutdownStep] at h
    split at h
    · next hphase hheartbeat hsweeping hlistening =>
      cases h
      exact .join hphase (Or.inl hheartbeat) ⟨hsweeping,hlistening⟩
    · next hphase hheartbeat hsweeping hlistening =>
      cases h
      exact .join hphase (Or.inr hheartbeat) ⟨hsweeping,hlistening⟩
    · cases h

/-- Effects of the shutdown. -/
theorem shutdownStep_effect {mac : Mac} {m m' : Mesh} {action : ShutdownAction}
    (h : m.shutdownStep action=some m') : Effect mac m (.shutdown action) m' := by
  cases shutdownStep_cases h with
  | signal hstart hphase => exact .quiet rfl (Work.same rfl)
  | clone hphase advertises => exact .quiet rfl (Work.same rfl)
  | skip hphase discovery => exact .quiet rfl (Work.same rfl)
  | unregister announcement hphase => exact .withdraw announcement rfl rfl (Work.same rfl)
  | remove announcement hphase => exact .remove announcement rfl rfl (Work.same rfl)
  | join hphase hheartbeat htasks => exact .quiet rfl (Work.same rfl)

/-- Every step has one of the effects. -/
theorem step_effect {mac : Mac} {m m' : Mesh} {action : Action} (h : step mac m action=some m') :
    Effect mac m action m' := by
  cases action with
  | start action => exact startStep_effect h
  | call action => exact callStep_effect h
  | tick action => exact tickStep_effect h
  | task action => exact taskStep_effect h
  | shutdown action => exact shutdownStep_effect h

/-- The parties of a node. -/
inductive Party where
  /-- Start-up. -/
  | start
  /-- Update calls. -/
  | call
  /-- Heartbeat. -/
  | tick
  /-- Listener and sweeper. -/
  | task
  /-- Shutdown. -/
  | shutdown
  deriving DecidableEq

/-- The party that takes a step. -/
def party : Action → Party
  | .start _ => .start
  | .call _ => .call
  | .tick _ => .tick
  | .task _ => .task
  | .shutdown _ => .shutdown

/-- What a step leaves to the other parties. -/
structure Frame (m : Mesh) (party : Party) (m' : Mesh) : Prop where
  /-- No step changes the configuration. -/
  config : m'.config=m.config
  /-- Only the start-up moves itself on. -/
  start : party ≠ .start → m'.start=m.start
  /-- Only the shutdown moves itself on. -/
  shutdown : party ≠ .shutdown → m'.shutdown=m.shutdown
  /-- Only the start-up spawns the heartbeat, and only the heartbeat moves itself on. -/
  heartbeat : party ≠ .start → party ≠ .tick → m'.heartbeat=m.heartbeat
  /-- Only update calls write the local announcement. -/
  calls : party ≠ .call → m'.calls=m.calls ∧ m'.shared.localAgent=m.shared.localAgent ∧
    m'.shared.sections=m.shared.sections

/-- Every step leaves the state of the other parties alone. -/
theorem step_frame {mac : Mac} {m m' : Mesh} {action : Action} (h : step mac m action=some m') :
    Frame m (party action) m' := by
  cases action with
  | start action =>
    cases startStep_cases h <;>
      exact ⟨rfl,fun hp => absurd rfl hp,fun _ => rfl,fun hp => absurd rfl hp,
        fun _ => ⟨rfl,rfl,rfl⟩⟩
  | call action =>
    rcases callStep_cases h with ⟨update,-,rfl⟩|⟨i,call,phase,shared,-,-,rfl⟩ <;>
      exact ⟨rfl,fun _ => rfl,fun _ => rfl,fun _ _ => rfl,fun hp => absurd rfl hp⟩
  | tick action =>
    cases action <;> simp only [step,Mesh.tickStep] at h <;> repeat' (split at h)
    all_goals first
      | (cases h; exact ⟨rfl,fun _ => rfl,fun _ => rfl,fun _ hp => absurd rfl hp,
          fun _ => ⟨rfl,rfl,rfl⟩⟩)
      | cases h
  | task action =>
    cases action <;> simp only [step,Mesh.taskStep] at h <;> split at h <;> cases h <;>
      exact ⟨rfl,fun _ => rfl,fun _ => rfl,fun _ _ => rfl,fun _ => ⟨rfl,rfl,rfl⟩⟩
  | shutdown action =>
    cases shutdownStep_cases h <;>
      exact ⟨rfl,fun _ => rfl,fun hp => absurd rfl hp,fun _ _ => rfl,fun _ => ⟨rfl,rfl,rfl⟩⟩

/-- The heartbeat is spawned by the last step of the start-up. -/
theorem step_notSpawned {mac : Mac} {m m' : Mesh} {action : Action}
    (h : step mac m action=some m') (hn : m.heartbeat=.notSpawned) :
    m'.heartbeat=.notSpawned ∨ ∃ snapshot, m.start=.upsert snapshot := by
  have hframe := step_frame h
  cases action with
  | start action =>
    cases startStep_cases h with
    | announce | announceFailed | listen | abandon | listenOnly | listenFailed => exact Or.inl hn
    | upsert snapshot now hstart hheartbeat => exact Or.inr ⟨snapshot,hstart⟩
  | tick action =>
    simp only [step] at h
    cases action <;> simp only [Mesh.tickStep,hn,reduceCtorEq] at h
  | call action => exact Or.inl ((hframe.heartbeat nofun nofun).trans hn)
  | task action => exact Or.inl ((hframe.heartbeat nofun nofun).trans hn)
  | shutdown action => exact Or.inl ((hframe.heartbeat nofun nofun).trans hn)

end MeshPresence.MeshEffects
