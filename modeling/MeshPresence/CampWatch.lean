import MeshPresence.CampRecords
import MeshPresence.GuardedRuns

/-!
# What the watch command prints and writes

The watch command lists the agents, prints and writes the listing and runs the hook, and
only then subscribes. Events in between reach neither the listing nor the receiver. When
every registry operation in this gap is one that sends no event, the printed events
folded over the printed listing agree with the registry whenever every event has been
received, and so does the state file.
-/

namespace MeshPresence.CampWatch

open FiniteMaps ChangeJournal GuardedRuns AgentTypes AgentRegistry RegistryJournal CampRecords

/-- How far the command is. A receiver is a position in the log of the channel. -/
inductive WatchPhase where
  /-- Reading the agents is next. -/
  | readSnapshot
  /-- Printing the listing is next. -/
  | printSnapshot (agents : List AgentRecord)
  /-- Writing the listing to the state file is next. -/
  | writeSnapshot (agents : List AgentRecord)
  /-- Appending the listing to the event file and running the hook are next. -/
  | emitSnapshot
  /-- Subscribing is next. -/
  | subscribe
  /-- Waiting for an event. -/
  | receive (cursor : ℕ)
  /-- Printing an event is next. -/
  | printEvent (cursor : ℕ) (record : EventRecord)
  /-- Reading the agents for the state file is next. -/
  | readState (cursor : ℕ)
  /-- Writing the state file is next. -/
  | writeState (cursor : ℕ) (agents : List AgentRecord)
  /-- Appending the event to the event file and running the hook are next. -/
  | emitEvent (cursor : ℕ)
  /-- The command ended. -/
  | stopped
  deriving DecidableEq

/-- A registry with one watch command. -/
structure Watch where
  /-- The registry of the mesh. -/
  registry : Registry
  /-- Progress of the command. -/
  phase : WatchPhase
  /-- A state file was asked for. -/
  writesState : Bool
  /-- The listing on the standard output. -/
  snapshot : Option (List AgentRecord)
  /-- The events on the standard output. -/
  printed : List EventRecord
  /-- The contents of the state file. -/
  stateFile : Option (List AgentRecord)
  deriving DecidableEq

/-- Steps of the registry and of the command. -/
inductive WatchAction where
  /-- A registry operation of any other party. -/
  | registry (op : RegistryOp)
  /-- The agents are read. -/
  | read (order : AgentOrder)
  /-- A line is printed, or printing fails. -/
  | print (ok : Bool)
  /-- The state file is replaced, or writing fails. -/
  | write (ok : Bool)
  /-- The event file is extended and the hook run, or one of them fails. -/
  | emit (ok : Bool)
  /-- The command subscribes. -/
  | subscribe
  /-- An event is received. -/
  | receive
  /-- The command is interrupted, or its channel closed. -/
  | interrupt

/-- One step; the receiver waits when there is no further event. The channel keeps every
event until it is received. -/
def Watch.step (s : Watch) : WatchAction → Option Watch
  | .registry op => some { s with registry := RegistryOp.run s.registry op }
  | .read order =>
    match s.phase with
    | .readSnapshot => some { s with phase := .printSnapshot (agentRecords s.registry order) }
    | .readState cursor =>
      some { s with phase := .writeState cursor (agentRecords s.registry order) }
    | _ => none
  | .print ok =>
    match s.phase,ok with
    | .printSnapshot agents,true =>
      some { s with snapshot := some agents
                    phase := if s.writesState then .writeSnapshot agents else .emitSnapshot }
    | .printEvent cursor record,true =>
      some { s with printed := s.printed ++ [record]
                    phase := if s.writesState then .readState cursor else .emitEvent cursor }
    | .printSnapshot _,false => some { s with phase := .stopped }
    | .printEvent _ _,false => some { s with phase := .stopped }
    | _,_ => none
  | .write ok =>
    match s.phase,ok with
    | .writeSnapshot agents,true => some { s with stateFile := some agents, phase := .emitSnapshot }
    | .writeState cursor agents,true =>
      some { s with stateFile := some agents, phase := .emitEvent cursor }
    | .writeSnapshot _,false => some { s with phase := .stopped }
    | .writeState _ _,false => some { s with phase := .stopped }
    | _,_ => none
  | .emit ok =>
    match s.phase,ok with
    | .emitSnapshot,true => some { s with phase := .subscribe }
    | .emitEvent cursor,true => some { s with phase := .receive cursor }
    | .emitSnapshot,false => some { s with phase := .stopped }
    | .emitEvent _,false => some { s with phase := .stopped }
    | _,_ => none
  | .subscribe =>
    match s.phase with
    | .subscribe => some { s with phase := .receive s.registry.events.length }
    | _ => none
  | .receive =>
    match s.phase with
    | .receive cursor =>
      match s.registry.events[cursor]? with
      | some event =>
        match toEventRecord event with
        | some record => some { s with phase := .printEvent (cursor+1) record }
        | none => some { s with phase := .receive (cursor+1) }
      | none => none
    | _ => none
  | .interrupt =>
    match s.phase with
    | .receive _ => some { s with phase := .stopped }
    | _ => none

/-- An empty registry before the command reads it. -/
def Watch.new (ttl : Duration) (writesState : Bool) : Watch where
  registry := Registry.new ttl
  phase := .readSnapshot
  writesState := writesState
  snapshot := none
  printed := []
  stateFile := none

/-- The listing was read and the subscription is still to come. -/
def inGap : WatchPhase → Bool
  | .printSnapshot _ => true
  | .writeSnapshot _ => true
  | .emitSnapshot => true
  | .subscribe => true
  | _ => false

/-- The operation sends no event: it upserts what is stored, removes what is absent, or
sweeps without a stale record. -/
def silent (r : Registry) : RegistryOp → Bool
  | .upsertLocal a _ => r.inner[a.agentId]?.any fun agent => agent.payload=a
  | .upsertRemote a _ => r.inner[a.agentId]?.any fun agent => agent.payload=a
  | .removeLocal agentId => r.inner[agentId]?.isNone
  | .removeRemote agentId => r.inner[agentId]?.isNone
  | .removeRemoteByInstanceName _ name =>
    r.inner.toList.all fun entry => entry.2.instanceName ≠ name
  | .evictStaleAt _ now => r.inner.toList.all fun entry => !isStale entry.2 now r.ttl

/-- Registry operations in the gap are silent. -/
def gapSilent (s : Watch) : WatchAction → Bool
  | .registry op => !inGap s.phase || silent s.registry op
  | _ => true

/-- The guard of a run without events in the gap. -/
def GapSilent (s : Watch) (action : WatchAction) : Prop := gapSilent s action=true

instance (s : Watch) (action : WatchAction) : Decidable (GapSilent s action) :=
  inferInstanceAs (Decidable (_=true))

/-- An upsert of the stored announcement is silent. -/
theorem silent_upsert {r : Registry} (hk : KeyedById r.inner) {a : AgentAnnouncement}
    (h : (r.inner[a.agentId]?.any fun agent => agent.payload=a)=true) (now : Instant)
    (origin : EventOrigin) : Transition r [] (r.upsertWithOriginAt a now origin).2 := by
  rcases upsertWithOriginAt_cases r a now origin with ⟨hnone,-⟩|⟨e,he,-,hr⟩|⟨e,he,hne,-⟩
  · rw [hnone] at h
    cases h
  · rw [hr]
    exact Transition.refresh hk he now
  · rw [he,Option.any_some] at h
    exact absurd (of_decide_eq_true h) hne

/-- A removal of an absent identifier is silent. -/
theorem silent_remove {r : Registry} (hk : KeyedById r.inner) {agentId : String}
    (h : r.inner[agentId]?.isNone=true) (origin : EventOrigin) (reason : DepartureReason) :
    Transition r [] (r.removeWithOrigin agentId origin reason).2 := by
  have hnone : r.inner[agentId]?=none := Option.isNone_iff_eq_none.mp h
  simp only [Registry.removeWithOrigin,hnone]
  exact Transition.refl hk

/-- A silent operation is a transition without events. -/
theorem silent_transition {r : Registry} (hk : KeyedById r.inner) {op : RegistryOp}
    (h : silent r op=true) : Transition r [] (RegistryOp.run r op) := by
  cases op with
  | upsertLocal a now => exact silent_upsert hk h now .localOrigin
  | upsertRemote a now => exact silent_upsert hk h now .remoteOrigin
  | removeLocal agentId => exact silent_remove hk h .localOrigin .graceful
  | removeRemote agentId => exact silent_remove hk h .remoteOrigin .graceful
  | removeRemoteByInstanceName order name =>
    have hall := List.all_eq_true.mp h
    rcases removeRemoteByInstanceName_cases r order name with ⟨-,hr⟩|⟨id,agent,hid,hname,-⟩
    · rw [RegistryOp.run,hr]
      exact Transition.refl hk
    · have hentry := hall (id,agent) (Std.ExtTreeMap.mem_toList_iff_getElem?_eq_some.mpr hid)
      exact absurd hname (of_decide_eq_true hentry)
  | evictStaleAt order now =>
    have hall := List.all_eq_true.mp h
    have hnone : r.staleIds order now=[] := by
      rw [List.eq_nil_iff_forall_not_mem]
      intro id hid
      obtain ⟨agent,hagent,hstale⟩ := mem_staleIds.mp hid
      have hentry := hall (id,agent) (Std.ExtTreeMap.mem_toList_iff_getElem?_eq_some.mpr hagent)
      rw [hstale] at hentry
      cases hentry
    rw [RegistryOp.run,Registry.evictStaleAt,hnone]
    exact Transition.refl hk

/-- Every listing of the registry is the given one. -/
def Lists (r : Registry) (agents : List AgentRecord) : Prop :=
  ∀ order, agentRecords r order=agents

/-- A registry with records under their own identifiers lists the same in every order. -/
theorem lists_of_keyed {r : Registry} (hk : KeyedById r.inner) (order : AgentOrder) :
    Lists r (agentRecords r order) := fun order' => agentRecords_congr hk hk rfl order' order

/-- The printed events follow the journal from the printed listing; the pending ones are
received but not printed. -/
structure Reading (s : Watch) (cursor : ℕ) (pending : List EventRecord) (listed : Registry)
    (seen : List AgentEvent) : Prop where
  /-- The receiver is not ahead of the log. -/
  within : cursor ≤ s.registry.events.length
  /-- The listed records are stored under their own identifiers. -/
  keyed : KeyedById listed.inner
  /-- The listing that was printed. -/
  snapshot : ∃ order, s.snapshot=some (agentRecords listed order)
  /-- Received and unread events lead from the listing to the registry. -/
  journal : Journal (store listed.inner) ((seen ++ s.registry.events.drop cursor).map eventChange)
    (store s.registry.inner)
  /-- Printed and pending events are the received ones. -/
  printed : s.printed ++ pending=seen.filterMap toEventRecord

/-- Records that were read from the registry at or after the last received event. -/
structure ReadBy (r : Registry) (cursor : ℕ) (agents : List AgentRecord) (written : Registry)
    (before tail : List AgentEvent) : Prop where
  /-- The records that were read are stored under their own identifiers. -/
  keyed : KeyedById written.inner
  /-- The records that were read. -/
  lists : Lists written agents
  /-- Unread events lie before or after the reading. -/
  unread : r.events.drop cursor=before ++ tail
  /-- The events after the reading lead to the registry. -/
  journal : Journal (store written.inner) (tail.map eventChange) (store r.inner)

/-- The printed events follow the printed listing. -/
def Following (s : Watch) (cursor : ℕ) (pending : List EventRecord) : Prop :=
  ∃ listed seen, Reading s cursor pending listed seen

/-- The records were read at or after the last received event. -/
def UpToDate (r : Registry) (cursor : ℕ) (agents : List AgentRecord) : Prop :=
  ∃ written before tail, ReadBy r cursor agents written before tail

/-- What is true of a command in each of its phases. -/
def WatchInvariant (s : Watch) : WatchPhase → Prop
  | .readSnapshot => s.printed=[]
  | .printSnapshot agents => s.printed=[] ∧ Lists s.registry agents
  | .writeSnapshot agents => s.printed=[] ∧ Lists s.registry agents ∧ s.snapshot=some agents
  | .emitSnapshot => s.printed=[] ∧ ∃ agents, Lists s.registry agents ∧ s.snapshot=some agents ∧
      (s.writesState=true → s.stateFile=some agents)
  | .subscribe => s.printed=[] ∧ ∃ agents, Lists s.registry agents ∧ s.snapshot=some agents ∧
      (s.writesState=true → s.stateFile=some agents)
  | .receive cursor => Following s cursor [] ∧
      (s.writesState=true → ∃ agents, s.stateFile=some agents ∧ UpToDate s.registry cursor agents)
  | .printEvent cursor record => Following s cursor [record]
  | .readState cursor => Following s cursor []
  | .writeState cursor agents => Following s cursor [] ∧ UpToDate s.registry cursor agents
  | .emitEvent cursor => Following s cursor [] ∧
      (s.writesState=true → ∃ agents, s.stateFile=some agents ∧ UpToDate s.registry cursor agents)
  | .stopped => True

/-- The invariant of a registry with a watch command. -/
structure Watching (s : Watch) : Prop where
  /-- Records are stored under their own identifiers. -/
  keyed : KeyedById s.registry.inner
  /-- The command is as far as its phase says. -/
  phase : WatchInvariant s s.phase

/-- An operation without events keeps every listing. -/
theorem Lists.silent {r r' : Registry} {agents : List AgentRecord} (h : Lists r agents)
    (hk : KeyedById r.inner) (ht : Transition r [] r') : Lists r' agents := by
  have hstore : store r'.inner=store r.inner := ht.journal
  exact fun order => (agentRecords_congr ht.keyed hk hstore order order).trans (h order)

/-- A registry operation extends the journal of the unread events. -/
theorem Following.registry {s : Watch} {cursor : ℕ} {pending : List EventRecord}
    (h : Following s cursor pending) {r : Registry} {sent : List AgentEvent}
    (ht : Transition s.registry sent r) : Following { s with registry := r } cursor pending := by
  obtain ⟨listed,seen,hr⟩ := h
  obtain ⟨hwithin,hdrop⟩ := ht.unread hr.within
  refine ⟨listed,seen,hwithin,hr.keyed,hr.snapshot,?_,hr.printed⟩
  rw [hdrop,←List.append_assoc,List.map_append]
  exact hr.journal.trans ht.journal

/-- A registry operation comes after every reading so far. -/
theorem UpToDate.registry {r : Registry} {cursor : ℕ} {agents : List AgentRecord}
    (h : UpToDate r cursor agents) (hcursor : cursor ≤ r.events.length) {r' : Registry}
    {sent : List AgentEvent} (ht : Transition r sent r') : UpToDate r' cursor agents := by
  obtain ⟨written,before,tail,hr⟩ := h
  obtain ⟨-,hdrop⟩ := ht.unread hcursor
  refine ⟨written,before,tail ++ sent,hr.keyed,hr.lists,?_,?_⟩
  · rw [hdrop,hr.unread,List.append_assoc]
  · rw [List.map_append]
    exact hr.journal.trans ht.journal

/-- Records that are read now are up to date. -/
theorem UpToDate.now {r : Registry} (hk : KeyedById r.inner) (cursor : ℕ) {agents : List AgentRecord}
    (h : Lists r agents) : UpToDate r cursor agents :=
  ⟨r,r.events.drop cursor,[],hk,h,(List.append_nil _).symm,Journal.refl _⟩

/-- The receiver of a following command is not ahead of the log. -/
theorem Following.within {s : Watch} {cursor : ℕ} {pending : List EventRecord}
    (h : Following s cursor pending) : cursor ≤ s.registry.events.length := by
  obtain ⟨listed,seen,hr⟩ := h
  exact hr.within

/-- A registry operation that is silent in the gap keeps what is true of a phase. -/
theorem WatchInvariant.registry {s : Watch} {phase : WatchPhase} (h : WatchInvariant s phase)
    (hk : KeyedById s.registry.inner) {r : Registry} {sent : List AgentEvent}
    (ht : Transition s.registry sent r) (hgap : inGap phase=true → Transition s.registry [] r) :
    WatchInvariant { s with registry := r } phase := by
  have hfile : ∀ {cursor : ℕ}, cursor ≤ s.registry.events.length →
      (s.writesState=true →
        ∃ agents, s.stateFile=some agents ∧ UpToDate s.registry cursor agents) →
      s.writesState=true → ∃ agents, s.stateFile=some agents ∧ UpToDate r cursor agents := by
    intro cursor hcursor h hw
    obtain ⟨agents,hstate,hread⟩ := h hw
    exact ⟨agents,hstate,hread.registry hcursor ht⟩
  cases phase with
  | readSnapshot => exact h
  | printSnapshot agents => exact ⟨h.1,h.2.silent hk (hgap rfl)⟩
  | writeSnapshot agents => exact ⟨h.1,h.2.1.silent hk (hgap rfl),h.2.2⟩
  | emitSnapshot | subscribe =>
    obtain ⟨hprinted,agents,hlists,hrest⟩ := h
    exact ⟨hprinted,agents,hlists.silent hk (hgap rfl),hrest⟩
  | receive cursor | emitEvent cursor => exact ⟨h.1.registry ht,hfile h.1.within h.2⟩
  | printEvent cursor record => exact Following.registry h ht
  | readState cursor => exact Following.registry h ht
  | writeState cursor agents => exact ⟨h.1.registry ht,h.2.registry h.1.within ht⟩
  | stopped => trivial

/-- Receiving an event leaves it to be printed. -/
theorem Following.receive {s : Watch} {cursor : ℕ} (h : Following s cursor []) {event : AgentEvent}
    (he : s.registry.events[cursor]?=some event) {record : EventRecord}
    (hr : toEventRecord event=some record) :
    Following { s with phase := .printEvent (cursor+1) record } (cursor+1) [record] := by
  obtain ⟨listed,seen,hread⟩ := h
  obtain ⟨hlt,hget⟩ := List.getElem?_eq_some_iff.mp he
  refine ⟨listed,seen ++ [event],hlt,hread.keyed,hread.snapshot,?_,?_⟩
  · have hjournal := hread.journal
    rwa [List.drop_eq_getElem_cons hlt,hget,←List.singleton_append,←List.append_assoc] at hjournal
  · have hprinted := hread.printed
    rw [List.append_nil] at hprinted
    rw [List.filterMap_append,←hprinted,List.filterMap_cons_some hr]
    rfl

/-- Printing the received event leaves nothing pending. -/
theorem Following.print {s : Watch} {cursor : ℕ} {record : EventRecord}
    (h : Following s cursor [record]) (phase : WatchPhase) :
    Following { s with printed := s.printed ++ [record], phase } cursor [] := by
  obtain ⟨listed,seen,hread⟩ := h
  refine ⟨listed,seen,hread.within,hread.keyed,hread.snapshot,hread.journal,?_⟩
  rw [List.append_nil]
  exact hread.printed

/-- Moving on to another phase keeps what was printed. -/
theorem Following.move {s : Watch} {cursor : ℕ} {pending : List EventRecord}
    (h : Following s cursor pending) (phase : WatchPhase) (stateFile : Option (List AgentRecord)) :
    Following { s with phase, stateFile } cursor pending := by
  obtain ⟨listed,seen,hread⟩ := h
  exact ⟨listed,seen,hread.within,hread.keyed,hread.snapshot,hread.journal,hread.printed⟩

/-- A listing that still holds at the subscription is followed from there. -/
theorem Following.subscribe {s : Watch} (hk : KeyedById s.registry.inner) (hprinted : s.printed=[])
    {agents : List AgentRecord} (hlists : Lists s.registry agents) (hs : s.snapshot=some agents)
    (phase : WatchPhase) :
    Following { s with phase } s.registry.events.length [] := by
  refine ⟨s.registry,[],le_refl _,hk,⟨Iteration.ascending,?_⟩,?_,?_⟩
  · rw [hlists]
    exact hs
  · rw [List.drop_length]
    exact Journal.refl _
  · rw [List.append_nil]
    exact hprinted

section Steps

variable {s s' : Watch}

/-- Reading the agents shows them up to date. -/
theorem Watching.read (h : Watching s) {order : AgentOrder}
    (hs : s.step (.read order)=some s') : Watching s' := by
  have hphase := h.phase
  simp only [Watch.step] at hs
  split at hs
  · next hp =>
    cases hs
    rw [hp] at hphase
    exact ⟨h.keyed,hphase,lists_of_keyed h.keyed order⟩
  · next cursor hp =>
    cases hs
    rw [hp] at hphase
    have hread := UpToDate.now h.keyed cursor (lists_of_keyed h.keyed order)
    exact ⟨h.keyed,hphase.move _ s.stateFile,hread⟩
  · cases hs

/-- A printed line is the listing or the next event; without a state file the command goes on. -/
theorem Watching.print (h : Watching s) {ok : Bool} (hs : s.step (.print ok)=some s') :
    Watching s' := by
  have hphase := h.phase
  simp only [Watch.step] at hs
  split at hs
  · next agents hp =>
    cases hs
    rw [hp] at hphase
    by_cases hw : s.writesState=true
    · rw [if_pos hw]
      exact ⟨h.keyed,hphase.1,hphase.2,rfl⟩
    · rw [if_neg hw]
      exact ⟨h.keyed,hphase.1,agents,hphase.2,rfl,fun ht => absurd ht hw⟩
  · next cursor record hp =>
    cases hs
    rw [hp] at hphase
    by_cases hw : s.writesState=true
    · rw [if_pos hw]
      exact ⟨h.keyed,Following.print hphase _⟩
    · rw [if_neg hw]
      exact ⟨h.keyed,Following.print hphase _,fun ht => absurd ht hw⟩
  · cases hs
    exact ⟨h.keyed,trivial⟩
  · cases hs
    exact ⟨h.keyed,trivial⟩
  · cases hs

/-- The state file gets the agents that were read. -/
theorem Watching.write (h : Watching s) {ok : Bool} (hs : s.step (.write ok)=some s') :
    Watching s' := by
  have hphase := h.phase
  simp only [Watch.step] at hs
  split at hs
  · next agents hp =>
    cases hs
    rw [hp] at hphase
    exact ⟨h.keyed,hphase.1,agents,hphase.2.1,hphase.2.2,fun _ => rfl⟩
  · next cursor agents hp =>
    cases hs
    rw [hp] at hphase
    exact ⟨h.keyed,hphase.1.move _ _,fun _ => ⟨agents,rfl,hphase.2⟩⟩
  · cases hs
    exact ⟨h.keyed,trivial⟩
  · cases hs
    exact ⟨h.keyed,trivial⟩
  · cases hs

/-- The event file and the hook leave what was printed and written. -/
theorem Watching.emit (h : Watching s) {ok : Bool} (hs : s.step (.emit ok)=some s') :
    Watching s' := by
  have hphase := h.phase
  simp only [Watch.step] at hs
  split at hs
  · next hp =>
    cases hs
    rw [hp] at hphase
    exact ⟨h.keyed,hphase⟩
  · next cursor hp =>
    cases hs
    rw [hp] at hphase
    exact ⟨h.keyed,hphase.1.move _ s.stateFile,hphase.2⟩
  · cases hs
    exact ⟨h.keyed,trivial⟩
  · cases hs
    exact ⟨h.keyed,trivial⟩
  · cases hs

/-- A received event is the next one. -/
theorem Watching.receive (h : Watching s) (hs : s.step .receive=some s') : Watching s' := by
  have hphase := h.phase
  simp only [Watch.step] at hs
  split at hs
  · next cursor hp =>
    rw [hp] at hphase
    split at hs
    · next event he =>
      split at hs
      · next record hr =>
        cases hs
        exact ⟨h.keyed,hphase.1.receive he hr⟩
      · next hr =>
        have hsome := toEventRecord_isSome event
        rw [hr] at hsome
        cases hsome
    · cases hs
  · cases hs

/-- Every step without an event in the gap keeps the invariant. -/
theorem Watching.step {action : WatchAction} (h : Watching s) (hg : GapSilent s action)
    (hs : s.step action=some s') : Watching s' := by
  have hphase := h.phase
  cases action with
  | registry op =>
    obtain ⟨sent,ht⟩ := run_transition h.keyed op
    cases hs
    refine ⟨ht.keyed,hphase.registry h.keyed ht fun hin => ?_⟩
    rw [GapSilent,gapSilent,hin,Bool.not_true,Bool.false_or] at hg
    exact silent_transition h.keyed hg
  | read order => exact h.read hs
  | print ok => exact h.print hs
  | write ok => exact h.write hs
  | emit ok => exact h.emit hs
  | subscribe =>
    simp only [Watch.step] at hs
    split at hs
    · next hp =>
      cases hs
      rw [hp] at hphase
      obtain ⟨hprinted,agents,hlists,hsnapshot,hfile⟩ := hphase
      exact ⟨h.keyed,.subscribe h.keyed hprinted hlists hsnapshot _,
        fun hw => ⟨agents,hfile hw,.now h.keyed _ hlists⟩⟩
    · cases hs
  | receive => exact h.receive hs
  | interrupt =>
    simp only [Watch.step] at hs
    split at hs
    · cases hs
      exact ⟨h.keyed,trivial⟩
    · cases hs

end Steps

/-- No step changes whether a state file is written. -/
theorem step_writesState {s s' : Watch} {action : WatchAction} (hs : s.step action=some s') :
    s'.writesState=s.writesState := by
  cases action <;> simp only [Watch.step] at hs <;> repeat' (split at hs)
  all_goals first
    | (cases hs; rfl)
    | cases hs

/-- The command starts with the invariant. -/
theorem Watching.new (ttl : Duration) (writesState : Bool) : Watching (Watch.new ttl writesState) :=
  ⟨(Journaled.new ttl).keyed,rfl⟩

/-- Every event sent so far was received, and every received one is printed and written. -/
def caughtUp (s : Watch) : Bool :=
  match s.phase with
  | .receive cursor => cursor=s.registry.events.length
  | .emitEvent cursor => cursor=s.registry.events.length
  | _ => false

/-- A command that is caught up follows its listing without unread events. -/
theorem Watching.caughtUp {s : Watch} (h : Watching s) (hc : CampWatch.caughtUp s=true) :
    Following s s.registry.events.length [] ∧ (s.writesState=true →
      ∃ agents, s.stateFile=some agents ∧ UpToDate s.registry s.registry.events.length agents) := by
  have hphase := h.phase
  unfold CampWatch.caughtUp at hc
  split at hc
  · next cursor hp =>
    rw [hp,of_decide_eq_true hc] at hphase
    exact hphase
  · next cursor hp =>
    rw [hp,of_decide_eq_true hc] at hphase
    exact hphase
  · cases hc

/-- In every interleaving of registry operations with the steps of the command in which no
operation between the reading of the listing and the subscription sends an event: when
every event sent so far was received and handled, the printed events folded over the
printed listing are the records of the registry, and a state file holds them. -/
theorem watch_misses_nothing (ttl : Duration) (writesState : Bool) (actions : List WatchAction)
    {s : Watch} (hg : Guarded Watch.step GapSilent (Watch.new ttl writesState) actions)
    (hrun : exec Watch.step (Watch.new ttl writesState) actions=some s)
    (hall : caughtUp s=true) :
    ∃ agents, s.snapshot=some agents ∧ foldRecords agents s.printed=recordMap s.registry ∧
      (∀ order, agentRecords s.registry order=(foldRecords agents s.printed).toList.map Prod.snd) ∧
      (writesState=true → ∀ order, s.stateFile=some (agentRecords s.registry order)) := by
  have h : Watching s :=
    invariant_of_guarded Watching (fun _ _ _ h hg hs => h.step hg hs) hg hrun
      (.new ttl writesState)
  have hsame : s.writesState=writesState :=
    invariant_of_exec (fun s : Watch => s.writesState=writesState)
      (fun _ _ _ h hs => (step_writesState hs).trans h) hrun rfl
  obtain ⟨⟨listed,seen,hread⟩,hfile⟩ := h.caughtUp hall
  obtain ⟨order,hsnapshot⟩ := hread.snapshot
  have hjournal := hread.journal
  rw [List.drop_length,List.append_nil] at hjournal
  have hprinted := hread.printed
  rw [List.append_nil] at hprinted
  have hfold := foldRecords_eq hread.keyed order hjournal.replay_eq
  rw [←hprinted] at hfold
  refine ⟨agentRecords listed order,hsnapshot,hfold,fun order' => ?_,fun hw order' => ?_⟩
  · rw [hfold,agentRecords_eq h.keyed]
  · obtain ⟨agents,hstate,written,before,tail,hby⟩ := hfile (hsame.trans hw)
    have hunread := hby.unread
    rw [List.drop_length] at hunread
    have htail : tail=[] := (List.append_eq_nil_iff.mp hunread.symm).2
    have hlast := hby.journal
    rw [htail] at hlast
    have hstore : store s.registry.inner=store written.inner := hlast
    rw [hstate,←hby.lists order',agentRecords_congr hby.keyed h.keyed hstore.symm order' order']

/-- The listing of one agent is printed and written while the agent is only refreshed. -/
def quietStart : List WatchAction :=
  [.registry (.upsertRemote sampleAnnouncement 1),.read Iteration.ascending,
   .registry (.upsertRemote sampleAnnouncement 2),.print true,.write true,.emit true,.subscribe]

/-- An update is received, and the agent leaves before the state file is replaced. -/
def handledEvents : List WatchAction :=
  [.registry (.upsertRemote (setStatus sampleAnnouncement .busy) 3),.receive,.print true,
   .registry (.removeRemote "agent-local"),.read Iteration.ascending,.write true,.emit true,
   .receive,.print true,.read Iteration.ascending,.write true,.emit true]

/-- The command after these steps. -/
def quietWatch : Watch :=
  (exec Watch.step (Watch.new 120000000000 true) (quietStart ++ handledEvents)).get
    (by decide +kernel)

/-- The command has printed both events and agrees with the registry. -/
theorem watch_misses_nothing_quiet :
    quietWatch.printed.length=2 ∧
    ∃ agents, quietWatch.snapshot=some agents ∧
      foldRecords agents quietWatch.printed=recordMap quietWatch.registry ∧
      (∀ order, agentRecords quietWatch.registry order=
        (foldRecords agents quietWatch.printed).toList.map Prod.snd) ∧
      ∀ order, quietWatch.stateFile=some (agentRecords quietWatch.registry order) := by
  have hrun : exec Watch.step (Watch.new 120000000000 true) (quietStart ++ handledEvents)=
      some quietWatch := (Option.some_get _).symm
  obtain ⟨agents,hsnapshot,hfold,hlist,hfile⟩ := watch_misses_nothing 120000000000 true
    (quietStart ++ handledEvents) (by decide +kernel) hrun (by decide +kernel)
  exact ⟨by decide +kernel,agents,hsnapshot,hfold,hlist,hfile rfl⟩

/-- An agent joins while the empty listing is printed. -/
def joinInGap : List WatchAction :=
  [.read Iteration.ascending,.registry (.upsertRemote sampleAnnouncement 1),.print true,.write true,
   .emit true,.subscribe]

/-- The command after these steps. -/
def gapWatch : Watch :=
  (exec Watch.step (Watch.new 120000000000 true) joinInGap).get (by decide +kernel)

/-- The command waits with every event since its subscription received, and neither its
output nor its state file knows the agent in the registry. -/
theorem gap_event_is_missed :
    exec Watch.step (Watch.new 120000000000 true) joinInGap=some gapWatch ∧
    caughtUp gapWatch=true ∧ gapWatch.snapshot=some [] ∧ gapWatch.printed=[] ∧
    gapWatch.stateFile=some [] ∧
    (recordMap gapWatch.registry).keys=["agent-local"] ∧
    foldRecords [] gapWatch.printed ≠ recordMap gapWatch.registry := by
  refine ⟨(Option.some_get _).symm,?_⟩
  decide +kernel

end MeshPresence.CampWatch
