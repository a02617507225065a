import MeshPresence.CampWatch
import MeshPresence.WatchOutputs

/-!
# The state file of the watch command

The state file is replaced by renaming a file that was written completely, so however the
command fails or is killed, readers find what was there before or a whole listing that the
registry had at some time of the run. A command that waits with everything received has
mirrored its registry once it has handled an event, also when it missed events between its
listing and its subscription.
-/

namespace MeshPresence.StateFiles

open FiniteMaps GuardedRuns RunTraces BroadcastChannels AgentTypes AgentRegistry RegistryJournal
open CampWatch (UpToDate)
open CampRecords EventChannel FilePaths WatchOutputs

variable {ℓ : Type} [DecidableEq ℓ] {γ ρ : Type} {capacity : ℕ}
  {broadcast : Broadcast γ ρ AgentEvent capacity} {locate : Path → ℓ} {command : WatchCommand}
  {json : JsonFormat} {path : Path} {file : ℓ} {files : Files ℓ}

/-- A file that is written has the contents. -/
@[simp] theorem write_self (files : Files ℓ) (file : ℓ) (contents : List UInt8) :
    write files file contents file=some contents := Function.update_self _ _ _

/-- Other files stay. -/
theorem write_of_ne {other : ℓ} (h : file ≠ other) (files : Files ℓ) (contents : List UInt8) :
    write files other contents file=files file := Function.update_of_ne h _ _

/-- Appending to another file leaves the file alone. -/
theorem appendTo_of_ne {other : ℓ} (h : file ≠ other) (files : Files ℓ) (contents : List UInt8) :
    appendTo files other contents file=files file := write_of_ne h _ _

/-- The target of a renamed file has its contents. -/
theorem renameTo_target {temporary : ℓ} (h : file ≠ temporary) (files : Files ℓ) :
    renameTo files temporary file file=files temporary := by
  rw [renameTo,if_neg h.symm,Function.update_of_ne h,Function.update_self]

/-- The state file, its temporary file and the event file are different files. -/
structure Mirrors (locate : Path → ℓ) (command : WatchCommand) (path : Path) : Prop where
  /-- The state is mirrored there. -/
  state : command.writeState=some path
  /-- The temporary file is another one. -/
  temporary : locate (temporaryStatePath path) ≠ locate path
  /-- The lines are appended to another one. -/
  events : ∀ other, command.writeEvents=some other → locate other ≠ locate path

/-- A cut or whole append leaves the state file alone. -/
theorem Mirrors.append (h : Mirrors locate command path) {other : Path}
    (hother : command.writeEvents=some other) (files : Files ℓ) (contents : List UInt8) :
    appendTo files (locate other) contents (locate path)=files (locate path) :=
  appendTo_of_ne (h.events other hother).symm files contents

/-- The agents were listed in a state of the run. -/
def ListedIn (broadcast : Broadcast γ ρ AgentEvent capacity) (locate : Path → ℓ)
    (command : WatchCommand) (json : JsonFormat) (start : WatchRun ℓ γ ρ)
    (actions : List WatchAction) (agents : List AgentRecord) : Prop :=
  ∃ earlier later t order, actions=earlier ++ later ∧
    exec (WatchRun.step broadcast locate command json) start earlier=some t ∧ t.bus.unsent=0 ∧
    agents=agentRecords t.bus.registry order

/-- What is true of a stage on the way to the state file: the agents to be written were listed,
and the temporary file to be renamed is whole. -/
def Prepared (listed : List AgentRecord → Prop) (json : JsonFormat) (temporary : ℓ)
    (files : Files ℓ) : WatchStage → Prop
  | .print (.snapshot agents) => listed agents
  | .writeTemporary agents _ => listed agents
  | .rename agents _ => listed agents ∧ files temporary=some (json.pretty agents)
  | _ => True

/-- A whole listing, or what was there before. -/
def WholeFile (listed : List AgentRecord → Prop) (json : JsonFormat) (file : ℓ)
    (before files : Files ℓ) : Prop :=
  files file=before file ∨ ∃ agents, listed agents ∧ files file=some (json.pretty agents)

/-- The invariant of a command whose state file is always whole. -/
structure Whole (broadcast : Broadcast γ ρ AgentEvent capacity) (locate : Path → ℓ)
    (command : WatchCommand) (json : JsonFormat) (path : Path) (start : WatchRun ℓ γ ρ)
    (actions : List WatchAction) (s : WatchRun ℓ γ ρ) : Prop where
  /-- The run so far. -/
  run : exec (WatchRun.step broadcast locate command json) start actions=some s
  /-- What is about to be written. -/
  stage : Prepared (ListedIn broadcast locate command json start actions) json
    (locate (temporaryStatePath path)) s.files s.stage
  /-- What was written. -/
  file : WholeFile (ListedIn broadcast locate command json start actions) json (locate path)
    start.files s.files

variable {start : WatchRun ℓ γ ρ}

/-- What was listed stays listed. -/
theorem ListedIn.later {actions : List WatchAction} {agents : List AgentRecord}
    (h : ListedIn broadcast locate command json start actions agents) (action : WatchAction) :
    ListedIn broadcast locate command json start (actions ++ [action]) agents := by
  obtain ⟨earlier,later,t,order,rfl,hrun,hfree,hagents⟩ := h
  exact ⟨earlier,later ++ [action],t,order,List.append_assoc _ _ _,hrun,hfree,hagents⟩

/-- Agents that are read are listed. -/
theorem Whole.listed {actions : List WatchAction} {s : WatchRun ℓ γ ρ}
    (h : Whole broadcast locate command json path start actions s) (hfree : s.bus.unsent=0)
    (order : AgentOrder) (action : WatchAction) :
    ListedIn broadcast locate command json start (actions ++ [action])
      (agentRecords s.bus.registry order) :=
  ⟨actions,[action],s,order,rfl,h.run,hfree,rfl⟩

omit [DecidableEq ℓ] in
/-- Preparations stay when more is listed. -/
theorem Prepared.mono {listed listed' : List AgentRecord → Prop} {stage : WatchStage}
    (h : Prepared listed json file files stage)
    (hlisted : ∀ agents, listed agents → listed' agents) :
    Prepared listed' json file files stage := by
  unfold Prepared at h ⊢
  split
  · exact hlisted _ h
  · exact hlisted _ h
  · exact ⟨hlisted _ h.1,h.2⟩
  · trivial

omit [DecidableEq ℓ] in
/-- A whole file stays whole when more is listed. -/
theorem WholeFile.mono {listed listed' : List AgentRecord → Prop} {before : Files ℓ}
    (h : WholeFile listed json file before files)
    (hlisted : ∀ agents, listed agents → listed' agents) :
    WholeFile listed' json file before files := by
  rcases h with h|⟨agents,hagents,h⟩
  · exact Or.inl h
  · exact Or.inr ⟨agents,hlisted agents hagents,h⟩

omit [DecidableEq ℓ] in
/-- A whole file stays whole when nothing is written there. -/
theorem WholeFile.keep {listed : List AgentRecord → Prop} {before files' : Files ℓ}
    (h : WholeFile listed json file before files) (hfile : files' file=files file) :
    WholeFile listed json file before files' := by
  rw [WholeFile,hfile]
  exact h

omit [DecidableEq ℓ] in
/-- Nothing is prepared when an output is handled. -/
theorem prepared_handled (listed : List AgentRecord → Prop) (json : JsonFormat) (file : ℓ)
    (files : Files ℓ) (output : Output) : Prepared listed json file files (handled output) := by
  cases output <;> trivial

/-- Every step keeps the state file whole. -/
theorem Whole.step (hm : Mirrors locate command path) {actions : List WatchAction}
    {s s' : WatchRun ℓ γ ρ} {action : WatchAction}
    (h : Whole broadcast locate command json path start actions s)
    (hs : s.step broadcast locate command json action=some s') :
    Whole broadcast locate command json path start (actions ++ [action]) s' := by
  have hrun := exec_append h.run (exec_singleton hs)
  have hlater := fun agents (hl : ListedIn broadcast locate command json start actions agents) =>
    hl.later action
  have hstage := h.stage.mono hlater
  have hfile := h.file.mono hlater
  have htemporary := hm.temporary
  cases moves_of_step hs with
  | start | send => exact ⟨hrun,hstage,hfile⟩
  | readSnapshot free hp order => exact ⟨hrun,h.listed free order action,hfile⟩
  | readState free hp order => exact ⟨hrun,h.listed free order action,hfile⟩
  | @print output hp =>
    rw [hp] at hstage
    refine ⟨hrun,?_,hfile⟩
    dsimp only [afterPrint]
    rw [hm.state,Option.isSome_some,if_pos rfl]
    cases output with
    | snapshot agents => exact hstage
    | event record => trivial
  | writeTemporary hp hpath =>
    rw [hp] at hstage
    cases hm.state.symm.trans hpath
    exact ⟨hrun,⟨hstage,write_self _ _ _⟩,hfile.keep (write_of_ne htemporary.symm _ _)⟩
  | cutTemporary hp hpath part =>
    cases hm.state.symm.trans hpath
    exact ⟨hrun,trivial,hfile.keep (write_of_ne htemporary.symm _ _)⟩
  | rename hp hpath =>
    rw [hp] at hstage
    cases hm.state.symm.trans hpath
    refine ⟨hrun,?_,Or.inr ⟨_,hstage.1,?_⟩⟩
    · exact afterState_of trivial trivial (prepared_handled _ _ _ _ _)
    · exact (renameTo_target htemporary.symm _).trans hstage.2
  | append hp hpath =>
    refine ⟨hrun,?_,hfile.keep (hm.append hpath _ _)⟩
    exact afterAppend_of trivial (prepared_handled _ _ _ _ _)
  | cutAppend hp hpath part => exact ⟨hrun,trivial,hfile.keep (hm.append hpath _ _)⟩
  | hook hp hexec => exact ⟨hrun,prepared_handled _ _ _ _ _,hfile⟩
  | hookFails | subscribe | receive | stop => exact ⟨hrun,trivial,hfile⟩

/-- Where its paths lead to. -/
def atWork : Path → List String := locateIn ["work"]

/-- The state file shows a listing that was read at or after the last received event. -/
def Shown (json : JsonFormat) (r : Registry) (cursor : ℕ) (contents : Option (List UInt8)) : Prop :=
  ∃ agents, contents=some (json.pretty agents) ∧ UpToDate r cursor agents

/-- No event was printed. -/
def Eventless (printed : List Output) : Prop := ∀ record, Output.event record ∉ printed

/-- Nothing is known behind the listing, and something behind an event. -/
def Behind (printed : List Output) (known : Prop) : Output → Prop
  | .snapshot _ => Eventless printed
  | .event _ => known

/-- How recent the state file is in each stage: the agents that are read behind an event are
not older than the event, and nothing is received until they are shown. -/
def Recent (locate : Path → ℓ) (json : JsonFormat) (path : Path) (s : WatchRun ℓ γ ρ)
    (cursor : ℕ) : WatchStage → Prop
  | .readSnapshot => Eventless s.printed
  | .print output => Behind s.printed True output
  | .readState output => Behind s.printed True output
  | .writeTemporary agents output => Behind s.printed (UpToDate s.bus.registry cursor agents) output
  | .rename agents output => Behind s.printed (UpToDate s.bus.registry cursor agents) output ∧
      s.files (locate (temporaryStatePath path))=some (json.pretty agents)
  | .append output =>
    Behind s.printed (Shown json s.bus.registry cursor (s.files (locate path))) output
  | .hook output =>
    Behind s.printed (Shown json s.bus.registry cursor (s.files (locate path))) output
  | .subscribe => Eventless s.printed
  | .receive => Eventless s.printed ∨ Shown json s.bus.registry cursor (s.files (locate path))
  | .stopped => True

/-- The invariant of a command with a recent state file. -/
structure Mirroring (broadcast : Broadcast γ ρ AgentEvent capacity) (locate : Path → ℓ)
    (json : JsonFormat) (path : Path) (s : WatchRun ℓ γ ρ) (cursor : ℕ) : Prop where
  /-- Records are stored under their own identifiers. -/
  keyed : KeyedById s.bus.registry.inner
  /-- What was received was published. -/
  within : cursor ≤ s.bus.published.length
  /-- What the receiver has not received. -/
  unread : ∀ next, s.receiver=some next → Unread broadcast s.bus next cursor
  /-- How recent the state file is. -/
  stage : Recent locate json path s cursor s.stage

/-- What is known behind an event may say less. -/
theorem Behind.imp {printed : List Output} {known other : Prop} {output : Output}
    (h : Behind printed known output) (hknown : known → other) : Behind printed other output := by
  cases output with
  | snapshot agents => exact h
  | event record => exact hknown h

omit [DecidableEq ℓ] in
/-- A handled output leaves the state file as it is. -/
theorem recent_handled {s : WatchRun ℓ γ ρ} {cursor : ℕ} {output : Output}
    (h : Behind s.printed (Shown json s.bus.registry cursor (s.files (locate path))) output) :
    Recent locate json path s cursor (handled output) := by
  cases output with
  | snapshot agents => exact h
  | event record => exact Or.inr h

/-- A registry operation comes after every reading so far. -/
theorem Shown.registry {r r' : Registry} {cursor : ℕ} {contents : Option (List UInt8)}
    (h : Shown json r cursor contents) (hcursor : cursor ≤ r.events.length) {sent : List AgentEvent}
    (ht : Transition r sent r') : Shown json r' cursor contents := by
  obtain ⟨agents,hfile,hread⟩ := h
  exact ⟨agents,hfile,hread.registry hcursor ht⟩

omit [DecidableEq ℓ] in
/-- A registry operation leaves the state file as recent as it was. -/
theorem Recent.registry {s : WatchRun ℓ γ ρ} {cursor : ℕ} {stage : WatchStage}
    (h : Recent locate json path s cursor stage)
    (hcursor : cursor ≤ s.bus.registry.events.length) {bus : EventBus γ} {sent : List AgentEvent}
    (ht : Transition s.bus.registry sent bus.registry) :
    Recent locate json path { s with bus } cursor stage := by
  cases stage with
  | readSnapshot | print | readState | subscribe | stopped => exact h
  | writeTemporary agents output => exact Behind.imp h fun hread => hread.registry hcursor ht
  | rename agents output => exact ⟨h.1.imp fun hread => hread.registry hcursor ht,h.2⟩
  | append output | hook output => exact Behind.imp h fun hshown => hshown.registry hcursor ht
  | receive => exact Or.imp_right (fun hshown => hshown.registry hcursor ht) h

/-- Every step keeps the state file recent. -/
theorem Mirroring.step (hm : Mirrors locate command path) {s s' : WatchRun ℓ γ ρ}
    {cursor : ℕ} {action : WatchAction} (h : Mirroring broadcast locate json path s cursor)
    (hs : s.step broadcast locate command json action=some s') :
    ∃ cursor', Mirroring broadcast locate json path s' cursor' := by
  have hstage := h.stage
  have hlogged : cursor ≤ s.bus.registry.events.length :=
    h.within.trans (length_published s.bus ▸ Nat.sub_le _ _)
  have htemporary := hm.temporary
  cases moves_of_step hs with
  | @start op bus hbus =>
    obtain ⟨sent,ht⟩ := run_transition h.keyed op
    obtain ⟨-,-,hregistry,hpublished⟩ := start_cases h.keyed hbus
    rw [←hregistry] at ht
    exact ⟨cursor,ht.keyed,hpublished ▸ h.within,
      fun next hr => (h.unread next hr).start h.keyed hbus,hstage.registry hlogged ht⟩
  | @send listening bus hbus heard =>
    obtain ⟨hregistry,event,hpublished,-⟩ := send_cases hbus
    have ht : Transition s.bus.registry [] bus.registry := by
      rw [hregistry]
      exact .refl h.keyed
    refine ⟨cursor,ht.keyed,?_,fun next hr => ?_,hstage.registry hlogged ht⟩
    · rw [hpublished,List.length_append]
      exact Nat.le_add_right_of_le h.within
    · rw [heard (Option.isSome_of_eq_some hr)] at hbus
      exact (h.unread next hr).send hbus
  | readSnapshot free hp order =>
    rw [hp] at hstage
    exact ⟨cursor,h.keyed,h.within,h.unread,hstage⟩
  | @readState output free hp order =>
    rw [hp] at hstage
    refine ⟨cursor,h.keyed,h.within,h.unread,Behind.imp hstage fun _ => ?_⟩
    exact .now h.keyed cursor (CampWatch.lists_of_keyed h.keyed order)
  | @print output hp =>
    rw [hp] at hstage
    refine ⟨cursor,h.keyed,h.within,h.unread,?_⟩
    dsimp only [afterPrint]
    rw [hm.state,Option.isSome_some,if_pos rfl]
    cases output with
    | snapshot agents =>
      intro record hr
      rcases List.mem_append.mp hr with hr|hr
      · exact hstage record hr
      · cases List.mem_singleton.mp hr
    | event record => trivial
  | writeTemporary hp hpath =>
    rw [hp] at hstage
    cases hm.state.symm.trans hpath
    exact ⟨cursor,h.keyed,h.within,h.unread,hstage,write_self _ _ _⟩
  | @rename agents output other hp hpath =>
    rw [hp] at hstage
    cases hm.state.symm.trans hpath
    have hshown : Behind s.printed (Shown json s.bus.registry cursor
        (renameTo s.files (locate (temporaryStatePath path)) (locate path) (locate path)))
        output := by
      rw [renameTo_target htemporary.symm,hstage.2]
      exact hstage.1.imp fun hread => ⟨agents,rfl,hread⟩
    exact ⟨cursor,h.keyed,h.within,h.unread,afterState_of hshown hshown (recent_handled hshown)⟩
  | @append output other hp hpath =>
    rw [hp] at hstage
    have hshown : Behind s.printed (Shown json s.bus.registry cursor
        (appendTo s.files (locate other) (json.ended output) (locate path))) output := by
      rw [hm.append hpath]
      exact hstage
    exact ⟨cursor,h.keyed,h.within,h.unread,afterAppend_of hshown (recent_handled hshown)⟩
  | hook hp hexec =>
    rw [hp] at hstage
    exact ⟨cursor,h.keyed,h.within,h.unread,recent_handled hstage⟩
  | subscribe hp =>
    rw [hp] at hstage
    refine ⟨s.bus.published.length,h.keyed,le_refl _,fun next hr => ?_,Or.inl hstage⟩
    cases hr
    exact .subscribe broadcast s.bus
  | @receive event record next after hp hreceiver hevent hrecord =>
    rcases (h.unread next hreceiver).recv_cases with
      ⟨-,hr⟩|⟨other,_,-,hr,hrest⟩|⟨-,missed,oldest,hr⟩
    · cases hevent.symm.trans hr
    · cases hevent.symm.trans hr
      refine ⟨cursor+1,h.keyed,hrest.within,fun next hn => ?_,trivial⟩
      cases hn
      exact hrest
    · cases hevent.symm.trans hr
  | cutTemporary | cutAppend | hookFails | stop => exact ⟨cursor,h.keyed,h.within,h.unread,trivial⟩

omit [DecidableEq ℓ] in
/-- The command starts with nothing received. -/
theorem Mirroring.new (broadcast : Broadcast γ ρ AgentEvent capacity) (locate : Path → ℓ)
    (json : JsonFormat) (path : Path) (ttl : Duration) (files : Files ℓ) :
    Mirroring broadcast locate json path (WatchRun.new broadcast ttl files) 0 where
  keyed := (Journaled.new ttl).keyed
  within := Nat.zero_le _
  unread := fun next hr => by cases hr
  stage := fun record hr => by cases hr

end MeshPresence.StateFiles
