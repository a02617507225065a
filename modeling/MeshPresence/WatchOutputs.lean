import MeshPresence.EventChannel
import MeshPresence.CampRecords
import MeshPresence.FilePaths
import MeshPresence.RunTraces

/-!
# The watch command with its channel and its files

The listing and then every received event go through the same steps: the line is printed, the
state file is replaced by way of a temporary file, the line is appended to the event file and the
hook is run. Every step can fail, and the process can be killed between and within them; a write
that is cut leaves a part of what was to be written. The command ends at the first failure, when
it is interrupted while it waits, and when its receiver has fallen behind. Which file a path leads
to is a parameter, so several paths may lead to one file; links that are replaced and other writers
of the same files are left out.
-/

namespace MeshPresence.WatchOutputs

open GuardedRuns BroadcastChannels AgentTypes AgentRegistry RegistryJournal CampRecords
open EventChannel FilePaths

/-- The contents of files. -/
abbrev Files (ℓ : Type) := ℓ → Option (List UInt8)

/-- What a line shows. -/
inductive Output where
  /-- The listing at the start. -/
  | snapshot (agents : List AgentRecord)
  /-- A received event. -/
  | event (record : EventRecord)
  deriving DecidableEq

/-- The kind that a line names. -/
def Output.kind : Output → String
  | .snapshot _ => "snapshot"
  | .event record => record.kind

/-- How records are written as JSON. -/
structure JsonFormat where
  /-- The line of an output, without its end. -/
  line : Output → List UInt8
  /-- The contents of a state file. -/
  pretty : List AgentRecord → List UInt8
  /-- A line does not break: control characters are escaped. -/
  unbroken : ∀ output, 10 ∉ line output

/-- A line with its end. -/
def JsonFormat.ended (json : JsonFormat) (output : Output) : List UInt8 := json.line output ++ [10]

/-- Options of the command. -/
structure WatchCommand where
  /-- Where the state is mirrored. -/
  writeState : Option Path
  /-- Where the lines are appended. -/
  writeEvents : Option Path
  /-- Shell command that is run for every line. -/
  exec : Option String

/-- A run of the hook. -/
structure HookCall where
  /-- The shell command. -/
  command : String
  /-- The kind of the line in the environment. -/
  kind : String
  /-- The line in the environment. -/
  payload : List UInt8
  deriving DecidableEq

/-- How far the command is. -/
inductive WatchStage where
  /-- Reading the agents for the listing is next. -/
  | readSnapshot
  /-- Printing a line is next. -/
  | print (output : Output)
  /-- Reading the agents for the state file is next. -/
  | readState (output : Output)
  /-- Writing the temporary file is next. -/
  | writeTemporary (agents : List AgentRecord) (output : Output)
  /-- Renaming the temporary file is next. -/
  | rename (agents : List AgentRecord) (output : Output)
  /-- Appending the line to the event file is next. -/
  | append (output : Output)
  /-- Running the hook is next. -/
  | hook (output : Output)
  /-- Subscribing is next. -/
  | subscribe
  /-- Waiting for an event. -/
  | receive
  /-- The command ended. -/
  | stopped
  deriving DecidableEq

/-- A line is handled: the command subscribes behind the listing and waits behind an event. -/
def handled : Output → WatchStage
  | .snapshot _ => .subscribe
  | .event _ => .receive

/-- Behind the event file comes the hook. -/
def afterAppend (command : WatchCommand) (output : Output) : WatchStage :=
  if command.exec.isSome then .hook output else handled output

/-- Behind the state file comes the event file. -/
def afterState (command : WatchCommand) (output : Output) : WatchStage :=
  if command.writeEvents.isSome then .append output else afterAppend command output

/-- Behind the output comes the state file: of the listing, or of the agents that are read
again behind an event. -/
def afterPrint (command : WatchCommand) (output : Output) : WatchStage :=
  if command.writeState.isSome then
    match output with
    | .snapshot agents => .writeTemporary agents output
    | .event _ => .readState output
  else afterState command output

/-- A registry with its channel and one watch command over some files. -/
structure WatchRun (ℓ γ ρ : Type) where
  /-- The registry of the mesh and its channel. -/
  bus : EventBus γ
  /-- The receiver, once the command has subscribed. -/
  receiver : Option ρ
  /-- Progress of the command. -/
  stage : WatchStage
  /-- The files. -/
  files : Files ℓ
  /-- The lines on the standard output. -/
  printed : List Output
  /-- The runs of the hook. -/
  hooked : List HookCall

/-- How a write ends. -/
inductive Written where
  /-- Everything is written. -/
  | whole
  /-- It fails or the process dies: before the file is opened, or with a part written. -/
  | cut (part : Option ℕ)
  deriving DecidableEq

/-- How a run of the hook ends. -/
inductive HookResult where
  /-- The shell command succeeds. -/
  | succeeded
  /-- It fails, possibly before it is started. -/
  | failed (started : Bool)
  deriving DecidableEq

/-- Steps of the registry and of the command. -/
inductive WatchAction where
  /-- A registry operation of any other party starts. -/
  | start (op : RegistryOp)
  /-- The running operation sends an event; other receivers may listen, too. -/
  | send (others : Bool)
  /-- The agents are read. -/
  | read (order : AgentOrder)
  /-- A line is printed, or printing fails. -/
  | print (ok : Bool)
  /-- The temporary file is written. -/
  | writeTemporary (written : Written)
  /-- The temporary file is renamed, or renaming fails. -/
  | rename (ok : Bool)
  /-- The line is appended to the event file. -/
  | append (written : Written)
  /-- The hook is run. -/
  | hook (result : HookResult)
  /-- The command subscribes. -/
  | subscribe
  /-- An event is received. -/
  | receive
  /-- The command is interrupted while it waits. -/
  | interrupt
  /-- The process is killed between two steps. -/
  | kill

section Files

variable {ℓ : Type} [DecidableEq ℓ]

/-- Put contents into a file. -/
def write (files : Files ℓ) (file : ℓ) (contents : List UInt8) : Files ℓ :=
  Function.update files file (some contents)

/-- Append to a file, which is created when it is missing. -/
def appendTo (files : Files ℓ) (file : ℓ) (contents : List UInt8) : Files ℓ :=
  write files file ((files file).getD [] ++ contents)

/-- Let a file take the place of another one; renaming a file to itself does nothing. -/
def renameTo (files : Files ℓ) (file target : ℓ) : Files ℓ :=
  if file=target then files
  else Function.update (Function.update files target (files file)) file none

/-- What a cut write leaves in the files. -/
def cutWrite (store : Files ℓ → ℓ → List UInt8 → Files ℓ) (files : Files ℓ) (file : ℓ)
    (contents : List UInt8) : Option ℕ → Files ℓ
  | none => files
  | some part => store files file (contents.take part)

end Files

variable {ℓ : Type} [DecidableEq ℓ] {γ ρ : Type} {capacity : ℕ}

/-- One step of a command with its options, over a channel and where paths lead to files; the
receiver waits when there is no further event, and reading the agents waits for the lock. -/
def WatchRun.step (broadcast : Broadcast γ ρ AgentEvent capacity) (locate : Path → ℓ)
    (command : WatchCommand) (json : JsonFormat) (s : WatchRun ℓ γ ρ) :
    WatchAction → Option (WatchRun ℓ γ ρ)
  | .start op => (s.bus.start op).map fun bus => { s with bus }
  | .send others =>
    (s.bus.send broadcast (others || s.receiver.isSome)).map fun bus => { s with bus }
  | .read order =>
    if s.bus.unsent=0 then
      let agents := agentRecords s.bus.registry order
      match s.stage with
      | .readSnapshot => some { s with stage := .print (.snapshot agents) }
      | .readState output => some { s with stage := .writeTemporary agents output }
      | _ => none
    else none
  | .print ok =>
    match s.stage with
    | .print output =>
      if ok then some { s with printed := s.printed ++ [output]
                               stage := afterPrint command output }
      else some { s with stage := .stopped }
    | _ => none
  | .writeTemporary written =>
    match s.stage,command.writeState with
    | .writeTemporary agents output,some path =>
      let temporary := locate (temporaryStatePath path)
      match written with
      | .whole => some { s with files := write s.files temporary (json.pretty agents)
                                stage := .rename agents output }
      | .cut part =>
        some { s with files := cutWrite write s.files temporary (json.pretty agents) part
                      stage := .stopped }
    | _,_ => none
  | .rename ok =>
    match s.stage,command.writeState with
    | .rename _ output,some path =>
      let temporary := locate (temporaryStatePath path)
      if ok then some { s with files := renameTo s.files temporary (locate path)
                               stage := afterState command output }
      else some { s with stage := .stopped }
    | _,_ => none
  | .append written =>
    match s.stage,command.writeEvents with
    | .append output,some path =>
      match written with
      | .whole => some { s with files := appendTo s.files (locate path) (json.ended output)
                                stage := afterAppend command output }
      | .cut part =>
        some { s with files := cutWrite appendTo s.files (locate path) (json.ended output) part
                      stage := .stopped }
    | _,_ => none
  | .hook result =>
    match s.stage,command.exec with
    | .hook output,some shell =>
      let call := { command := shell, kind := output.kind, payload := json.line output }
      match result with
      | .succeeded => some { s with hooked := s.hooked ++ [call], stage := handled output }
      | .failed started =>
        some { s with hooked := if started then s.hooked ++ [call] else s.hooked
                      stage := .stopped }
    | _,_ => none
  | .subscribe =>
    match s.stage with
    | .subscribe =>
      some { s with receiver := some (broadcast.subscribe s.bus.channel), stage := .receive }
    | _ => none
  | .receive =>
    match s.stage,s.receiver with
    | .receive,some next =>
      match broadcast.recv s.bus.channel next with
      | .value event next =>
        match toEventRecord event with
        | some record => some { s with receiver := some next, stage := .print (.event record) }
        | none => some { s with receiver := some next }
      | .lagged _ _ => some { s with stage := .stopped }
      | .empty => none
    | _,_ => none
  | .interrupt => if s.stage=.receive then some { s with stage := .stopped } else none
  | .kill => some { s with stage := .stopped }

/-- An empty registry and some files before the command runs. -/
def WatchRun.new (broadcast : Broadcast γ ρ AgentEvent capacity) (ttl : Duration)
    (files : Files ℓ) : WatchRun ℓ γ ρ where
  bus := EventBus.new broadcast ttl
  receiver := none
  stage := .readSnapshot
  files := files
  printed := []
  hooked := []

/-- What a step does: how the registry and its channel move, or what becomes of the command. -/
inductive Moves (broadcast : Broadcast γ ρ AgentEvent capacity) (locate : Path → ℓ)
    (command : WatchCommand) (json : JsonFormat) (s : WatchRun ℓ γ ρ) : WatchRun ℓ γ ρ → Prop where
  /-- A registry operation starts. -/
  | start {op : RegistryOp} {bus : EventBus γ} (h : s.bus.start op=some bus) :
      Moves broadcast locate command json s { s with bus }
  /-- An event is sent; a command with a receiver listens. -/
  | send {listening : Bool} {bus : EventBus γ} (h : s.bus.send broadcast listening=some bus)
      (heard : s.receiver.isSome=true → listening=true) :
      Moves broadcast locate command json s { s with bus }
  /-- The agents are listed. -/
  | readSnapshot (free : s.bus.unsent=0) (h : s.stage=.readSnapshot) (order : AgentOrder) :
      Moves broadcast locate command json s
        { s with stage := .print (.snapshot (agentRecords s.bus.registry order)) }
  /-- The agents are read for the state file. -/
  | readState {output : Output} (free : s.bus.unsent=0) (h : s.stage=.readState output)
      (order : AgentOrder) : Moves broadcast locate command json s
        { s with stage := .writeTemporary (agentRecords s.bus.registry order) output }
  /-- A line is printed. -/
  | print {output : Output} (h : s.stage=.print output) :
      Moves broadcast locate command json s
        { s with printed := s.printed ++ [output], stage := afterPrint command output }
  /-- The temporary file is written. -/
  | writeTemporary {agents : List AgentRecord} {output : Output} {path : Path}
      (h : s.stage=.writeTemporary agents output) (hpath : command.writeState=some path) :
      Moves broadcast locate command json s
        { s with files := write s.files (locate (temporaryStatePath path)) (json.pretty agents)
                 stage := .rename agents output }
  /-- Writing the temporary file is cut. -/
  | cutTemporary {agents : List AgentRecord} {output : Output} {path : Path}
      (h : s.stage=.writeTemporary agents output) (hpath : command.writeState=some path)
      (part : ℕ) :
      Moves broadcast locate command json s
        { s with files := write s.files (locate (temporaryStatePath path))
                   ((json.pretty agents).take part)
                 stage := .stopped }
  /-- The temporary file takes the place of the state file. -/
  | rename {agents : List AgentRecord} {output : Output} {path : Path}
      (h : s.stage=.rename agents output) (hpath : command.writeState=some path) :
      Moves broadcast locate command json s
        { s with files := renameTo s.files (locate (temporaryStatePath path)) (locate path)
                 stage := afterState command output }
  /-- The line is appended to the event file. -/
  | append {output : Output} {path : Path} (h : s.stage=.append output)
      (hpath : command.writeEvents=some path) :
      Moves broadcast locate command json s
        { s with files := appendTo s.files (locate path) (json.ended output)
                 stage := afterAppend command output }
  /-- Appending is cut. -/
  | cutAppend {output : Output} {path : Path} (h : s.stage=.append output)
      (hpath : command.writeEvents=some path) (part : ℕ) :
      Moves broadcast locate command json s
        { s with files := appendTo s.files (locate path) ((json.ended output).take part)
                 stage := .stopped }
  /-- The hook is run. -/
  | hook {output : Output} {shell : String} (h : s.stage=.hook output)
      (hexec : command.exec=some shell) :
      Moves broadcast locate command json s
        { s with hooked := s.hooked ++
                   [{ command := shell, kind := output.kind, payload := json.line output }]
                 stage := handled output }
  /-- The hook is started and fails. -/
  | hookFails {output : Output} {shell : String} (h : s.stage=.hook output)
      (hexec : command.exec=some shell) :
      Moves broadcast locate command json s
        { s with hooked := s.hooked ++
                   [{ command := shell, kind := output.kind, payload := json.line output }]
                 stage := .stopped }
  /-- The command subscribes. -/
  | subscribe (h : s.stage=.subscribe) :
      Moves broadcast locate command json s
        { s with receiver := some (broadcast.subscribe s.bus.channel), stage := .receive }
  /-- An event is received. -/
  | receive {event : AgentEvent} {record : EventRecord} {next after : ρ} (h : s.stage=.receive)
      (hreceiver : s.receiver=some next)
      (hevent : broadcast.recv s.bus.channel next=.value event after)
      (hrecord : toEventRecord event=some record) :
      Moves broadcast locate command json s
        { s with receiver := some after, stage := .print (.event record) }
  /-- The command ends without anything else. -/
  | stop : Moves broadcast locate command json s { s with stage := .stopped }

section Moves

variable {broadcast : Broadcast γ ρ AgentEvent capacity} {locate : Path → ℓ}
  {command : WatchCommand} {json : JsonFormat} {s s' : WatchRun ℓ γ ρ}

/-- Reading the agents. -/
theorem moves_of_read {order : AgentOrder}
    (h : s.step broadcast locate command json (.read order)=some s') :
    Moves broadcast locate command json s s' := by
  dsimp only [WatchRun.step] at h
  split at h
  · next free =>
    split at h
    · next hstage =>
      cases h
      exact .readSnapshot free hstage order
    · next output hstage =>
      cases h
      exact .readState free hstage order
    · cases h
  · cases h

/-- Writing the temporary file. -/
theorem moves_of_writeTemporary {written : Written}
    (h : s.step broadcast locate command json (.writeTemporary written)=some s') :
    Moves broadcast locate command json s s' := by
  simp only [WatchRun.step] at h
  split at h
  · next agents output path hstage hpath =>
    split at h <;> cases h
    · exact .writeTemporary hstage hpath
    · next part =>
      cases part with
      | none => exact .stop
      | some part => exact .cutTemporary hstage hpath part
  · cases h

/-- Appending to the event file. -/
theorem moves_of_append {written : Written}
    (h : s.step broadcast locate command json (.append written)=some s') :
    Moves broadcast locate command json s s' := by
  simp only [WatchRun.step] at h
  split at h
  · next output path hstage hpath =>
    split at h <;> cases h
    · exact .append hstage hpath
    · next part =>
      cases part with
      | none => exact .stop
      | some part => exact .cutAppend hstage hpath part
  · cases h

/-- Running the hook. -/
theorem moves_of_hook {result : HookResult}
    (h : s.step broadcast locate command json (.hook result)=some s') :
    Moves broadcast locate command json s s' := by
  simp only [WatchRun.step] at h
  split at h
  · next output shell hstage hexec =>
    split at h <;> cases h
    · exact .hook hstage hexec
    · next started =>
      cases started with
      | true => exact .hookFails hstage hexec
      | false => exact .stop
  · cases h

/-- Receiving an event. -/
theorem moves_of_receive (h : s.step broadcast locate command json .receive=some s') :
    Moves broadcast locate command json s s' := by
  simp only [WatchRun.step] at h
  split at h
  · next next hstage hreceiver =>
    split at h
    · next event after hevent =>
      split at h
      · next record hrecord =>
        cases h
        exact .receive hstage hreceiver hevent hrecord
      · next hnone =>
        have hsome := toEventRecord_isSome event
        rw [hnone] at hsome
        cases hsome
    · cases h
      exact .stop
    · cases h
  · cases h

/-- Every step is such a move. -/
theorem moves_of_step {action : WatchAction}
    (h : s.step broadcast locate command json action=some s') :
    Moves broadcast locate command json s s' := by
  cases action with
  | start op =>
    obtain ⟨bus,hbus,rfl⟩ := Option.map_eq_some_iff.mp h
    exact .start hbus
  | send others =>
    obtain ⟨bus,hbus,rfl⟩ := Option.map_eq_some_iff.mp h
    exact .send hbus fun hr => by rw [hr,Bool.or_true]
  | read order => exact moves_of_read h
  | print ok =>
    simp only [WatchRun.step] at h
    split at h
    · next output hstage =>
      split at h <;> cases h
      · exact .print hstage
      · exact .stop
    · cases h
  | writeTemporary written => exact moves_of_writeTemporary h
  | rename ok =>
    simp only [WatchRun.step] at h
    split at h
    · next agents output path hstage hpath =>
      split at h <;> cases h
      · exact .rename hstage hpath
      · exact .stop
    · cases h
  | append written => exact moves_of_append h
  | hook result => exact moves_of_hook h
  | subscribe =>
    simp only [WatchRun.step] at h
    split at h
    · next hstage =>
      cases h
      exact .subscribe hstage
    · cases h
  | receive => exact moves_of_receive h
  | interrupt =>
    simp only [WatchRun.step] at h
    split at h <;> cases h
    exact .stop
  | kill =>
    cases h
    exact .stop

end Moves

section Stages

variable {command : WatchCommand} {output : Output} {P : WatchStage → Prop}

/-- What is true of the hook and of handled outputs is true behind the event file. -/
theorem afterAppend_of (hhook : P (.hook output)) (hhandled : P (handled output)) :
    P (afterAppend command output) := by
  unfold afterAppend
  split
  · exact hhook
  · exact hhandled

/-- What is true of the event file and of what comes behind it is true behind the state file. -/
theorem afterState_of (happend : P (.append output)) (hhook : P (.hook output))
    (hhandled : P (handled output)) : P (afterState command output) := by
  unfold afterState
  split
  · exact happend
  · exact afterAppend_of hhook hhandled

/-- What is true of the state file and of what comes behind it is true behind the standard
output. -/
theorem afterPrint_of
    (hsnapshot : ∀ agents, output=.snapshot agents → P (.writeTemporary agents output))
    (hevent : ∀ record, output=.event record → P (.readState output)) (happend : P (.append output))
    (hhook : P (.hook output)) (hhandled : P (handled output)) : P (afterPrint command output) := by
  unfold afterPrint
  split
  · cases output with
    | snapshot agents => exact hsnapshot agents rfl
    | event record => exact hevent record rfl
  · exact afterState_of happend hhook hhandled

end Stages

/-- The bytes of a text. -/
def bytes (text : String) : List UInt8 := text.toUTF8.data.toList

/-- The lines of a small run: nothing listed, and the small agent joins. -/
def sampleLines : List (Output × List UInt8) :=
  [(.snapshot [],bytes "\x7b\"kind\":\"snapshot\",\"agents\":[]\x7d")] ++
  ((toEventRecord (.joined (intoAgentInfo sampleAnnouncement 0) .remoteOrigin)).map fun record =>
    (Output.event record,bytes "\x7b\"kind\":\"joined\",\"origin\":\"remote\",\"current\":" ++
      bytes "\x7b\"id\":\"agent-local\",\"instance_name\":" ++
      bytes "\"agent-local._agent-mesh._tcp.local.\",\"role\":\"coder\",\"project\":\"alpha\"," ++
      bytes "\"branch\":\"main\",\"status\":\"idle\",\"capabilities\":[],\"port\":8080," ++
      bytes "\"addresses\":[],\"metadata\":\x7b\x7d\x7d\x7d")).toList

/-- The lines of the small run do not break. -/
theorem sampleLines_unbroken : (sampleLines.all fun entry => !entry.2.contains 10)=true := by
  decide +kernel

/-- The JSON of a small run. -/
def sampleJson : JsonFormat where
  line output := ((sampleLines.find? fun entry => entry.1=output).map Prod.snd).getD []
  pretty agents := if agents=[] then bytes "[]" else []
  unbroken := by
    intro output hbreak
    cases h : sampleLines.find? fun entry => entry.1=output with
    | none =>
      rw [h] at hbreak
      cases hbreak
    | some entry =>
      rw [h] at hbreak
      have hline := List.all_eq_true.mp sampleLines_unbroken entry (List.mem_of_find?_eq_some h)
      have hcontains : entry.2.contains 10=true := List.contains_iff_mem.mpr hbreak
      rw [hcontains] at hline
      cases hline

end MeshPresence.WatchOutputs
