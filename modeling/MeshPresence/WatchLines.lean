import MeshPresence.StateFiles
import MeshPresence.SeparatedLists

/-!
# The lines of the watch command

Behind its listing the command prints the events since its subscription, in order and without a
gap, and when it waits it has printed all that were published. The event file and the hook get
the printed lines in order, each once; however the command ends, they lack at most the last one,
of which the event file may have a part.
-/

namespace MeshPresence.WatchLines

open FiniteMaps GuardedRuns RunTraces BroadcastChannels AgentTypes AgentRegistry RegistryJournal
open CampRecords EventChannel FilePaths WatchOutputs StateFiles SeparatedLists

variable {ℓ : Type} [DecidableEq ℓ] {γ ρ : Type} {capacity : ℕ}
  {broadcast : Broadcast γ ρ AgentEvent capacity} {locate : Path → ℓ} {command : WatchCommand}
  {json : JsonFormat} {path : Path} {file : ℓ} {shell : String}

/-- The lines of events. -/
def eventOutputs (events : List AgentEvent) : List Output :=
  (events.filterMap toEventRecord).map .event

/-- The line of a listing is the only one so far. -/
def Alone (printed : List Output) : Output → Prop
  | .snapshot agents => printed=[.snapshot agents]
  | .event _ => True

/-- What was printed in each stage that comes before the subscription. -/
def Opening (printed : List Output) : WatchStage → Prop
  | .readSnapshot => printed=[]
  | .print (.snapshot _) => printed=[]
  | .print (.event _) => True
  | .readState output => Alone printed output
  | .writeTemporary _ output => Alone printed output
  | .rename _ output => Alone printed output
  | .append output => Alone printed output
  | .hook output => Alone printed output
  | .subscribe => ∃ agents, printed=[.snapshot agents]
  | .receive => True
  | .stopped => True

/-- A handled listing is the only line. -/
theorem opening_handled {printed : List Output} {output : Output} (h : Alone printed output) :
    Opening printed (handled output) := by
  cases output with
  | snapshot agents => exact ⟨agents,h⟩
  | event record => trivial

/-- Every step of the command keeps what is true of its opening. -/
theorem opening_step {s s' : WatchRun ℓ γ ρ} {action : WatchAction}
    (h : Opening s.printed s.stage) (hs : s.step broadcast locate command json action=some s') :
    Opening s'.printed s'.stage := by
  cases moves_of_step hs with
  | start | send => exact h
  | readSnapshot free hp order =>
    rw [hp] at h
    exact h
  | @readState output free hp order =>
    rw [hp] at h
    exact h
  | @print output hp =>
    rw [hp] at h
    have halone : Alone (s.printed ++ [output]) output := by
      cases output with
      | snapshot agents =>
        have hnone : s.printed=[] := h
        rw [hnone]
        rfl
      | event record => trivial
    exact afterPrint_of (P:=Opening (s.printed ++ [output])) (fun _ _ => halone) (fun _ _ => halone)
      halone halone (opening_handled halone)
  | writeTemporary hp hpath =>
    rw [hp] at h
    exact h
  | rename hp hpath =>
    rw [hp] at h
    exact afterState_of (P:=Opening s.printed) h h (opening_handled h)
  | append hp hpath =>
    rw [hp] at h
    exact afterAppend_of (P:=Opening s.printed) h (opening_handled h)
  | hook hp hexec =>
    rw [hp] at h
    exact opening_handled h
  | subscribe | receive | cutTemporary | cutAppend | hookFails | stop => trivial

/-- The output is the line of an event. -/
def IsEvent (output : Output) : Prop := ∃ record, output=.event record

/-- The receiver has received the published events up to a place. -/
def Received (broadcast : Broadcast γ ρ AgentEvent capacity) (s : WatchRun ℓ γ ρ) (cursor : ℕ) :
    Prop :=
  ∃ next, s.receiver=some next ∧ Unread broadcast s.bus next cursor

/-- What is true in each stage behind the subscription, when the events up to a place were
printed: a received event is printed before the next one is received. -/
def Printing (broadcast : Broadcast γ ρ AgentEvent capacity) (s : WatchRun ℓ γ ρ) (cursor : ℕ) :
    WatchStage → Prop
  | .readSnapshot => False
  | .print output => Received broadcast s (cursor+1) ∧ ∃ event record, output=.event record ∧
      toEventRecord event=some record ∧ s.bus.published[cursor]?=some event
  | .readState output => Received broadcast s cursor ∧ IsEvent output
  | .writeTemporary _ output => Received broadcast s cursor ∧ IsEvent output
  | .rename _ output => Received broadcast s cursor ∧ IsEvent output
  | .append output => Received broadcast s cursor ∧ IsEvent output
  | .hook output => Received broadcast s cursor ∧ IsEvent output
  | .subscribe => False
  | .receive => Received broadcast s cursor
  | .stopped => cursor ≤ s.bus.published.length

/-- The invariant of a command behind its subscription. -/
structure Follows (broadcast : Broadcast γ ρ AgentEvent capacity) (opening : List Output)
    (first : ℕ) (s : WatchRun ℓ γ ρ) (count : ℕ) : Prop where
  /-- Records are stored under their own identifiers. -/
  keyed : KeyedById s.bus.registry.inner
  /-- The printed lines. -/
  printed : s.printed=opening ++ eventOutputs ((s.bus.published.drop first).take count)
  /-- What is true in the stage. -/
  stage : Printing broadcast s (first+count) s.stage

omit [DecidableEq ℓ] in
/-- What was printed was published. -/
theorem Printing.within {s : WatchRun ℓ γ ρ} {cursor : ℕ} {stage : WatchStage}
    (h : Printing broadcast s cursor stage) : cursor ≤ s.bus.published.length := by
  cases stage with
  | readSnapshot | subscribe => cases h
  | print output =>
    obtain ⟨⟨next,-,hunread⟩,-⟩ := h
    exact (Nat.le_succ _).trans hunread.within
  | readState output | append output | hook output =>
    obtain ⟨⟨next,-,hunread⟩,-⟩ := h
    exact hunread.within
  | writeTemporary agents output | rename agents output =>
    obtain ⟨⟨next,-,hunread⟩,-⟩ := h
    exact hunread.within
  | receive =>
    obtain ⟨next,-,hunread⟩ := h
    exact hunread.within
  | stopped => exact h

omit [DecidableEq ℓ] in
/-- A handled event leaves the command waiting. -/
theorem printing_handled {s : WatchRun ℓ γ ρ} {cursor : ℕ} {output : Output}
    (h : Received broadcast s cursor ∧ IsEvent output) :
    Printing broadcast s cursor (handled output) := by
  obtain ⟨hreceived,record,rfl⟩ := h
  exact hreceived

omit [DecidableEq ℓ] in
/-- What is true in a stage stays when the channel moves and nothing unread is lost. -/
theorem Printing.bus {s : WatchRun ℓ γ ρ} {cursor : ℕ} {stage : WatchStage}
    (h : Printing broadcast s cursor stage) {bus : EventBus γ} (more : List AgentEvent)
    (hpublished : bus.published=s.bus.published ++ more)
    (hunread : ∀ next cursor, s.receiver=some next → Unread broadcast s.bus next cursor →
      Unread broadcast bus next cursor) :
    Printing broadcast { s with bus } cursor stage := by
  have hreceived : ∀ cursor, Received broadcast s cursor →
      Received broadcast { s with bus } cursor :=
    fun cursor ⟨next,hr,hu⟩ => ⟨next,hr,hunread next cursor hr hu⟩
  cases stage with
  | readSnapshot | subscribe => exact h
  | print output =>
    obtain ⟨hr,event,record,houtput,hrecord,hevent⟩ := h
    refine ⟨hreceived _ hr,event,record,houtput,hrecord,?_⟩
    obtain ⟨hlt,-⟩ := List.getElem?_eq_some_iff.mp hevent
    dsimp only
    rw [hpublished,List.getElem?_append_left hlt]
    exact hevent
  | readState output | append output | hook output => exact ⟨hreceived _ h.1,h.2⟩
  | writeTemporary agents output | rename agents output => exact ⟨hreceived _ h.1,h.2⟩
  | receive => exact hreceived _ h
  | stopped =>
    have hwithin : cursor ≤ s.bus.published.length := h
    have hmore : cursor ≤ bus.published.length := by
      rw [hpublished,List.length_append]
      exact Nat.le_add_right_of_le hwithin
    exact hmore

/-- One more printed event. -/
theorem eventOutputs_succ {published : List AgentEvent} {first count : ℕ} {event : AgentEvent}
    {record : EventRecord} (hevent : published[first+count]?=some event)
    (hrecord : toEventRecord event=some record) :
    eventOutputs ((published.drop first).take (count+1))=
      eventOutputs ((published.drop first).take count) ++ [.event record] := by
  have hnext : (published.drop first)[count]?=some event := by
    rw [List.getElem?_drop]
    exact hevent
  rw [List.take_add_one,hnext,eventOutputs,eventOutputs,List.filterMap_append,List.map_append,
    Option.toList_some,List.filterMap_cons_some hrecord]
  rfl

/-- Every step keeps what is true behind the subscription. -/
theorem Follows.step {opening : List Output} {first count : ℕ}
    {s s' : WatchRun ℓ γ ρ} {action : WatchAction} (h : Follows broadcast opening first s count)
    (hs : s.step broadcast locate command json action=some s') :
    ∃ count', Follows broadcast opening first s' count' := by
  have hstage := h.stage
  have hwithin := hstage.within
  have hprinted : ∀ more, ((s.bus.published ++ more).drop first).take count=
      (s.bus.published.drop first).take count := take_drop_append hwithin
  cases moves_of_step hs with
  | @start op bus hbus =>
    obtain ⟨sent,ht⟩ := run_transition h.keyed op
    obtain ⟨-,-,hregistry,hpublished⟩ := start_cases h.keyed hbus
    refine ⟨count,hregistry ▸ ht.keyed,?_,
      hstage.bus [] ?_ fun next cursor _ hu => hu.start h.keyed hbus⟩
    · rw [hpublished]
      exact h.printed
    · rw [hpublished,List.append_nil]
  | @send listening bus hbus heard =>
    obtain ⟨hregistry,event,hpublished,-⟩ := send_cases hbus
    refine ⟨count,hregistry ▸ h.keyed,?_,hstage.bus [event] hpublished fun next cursor hr hu => ?_⟩
    · rw [hpublished,hprinted]
      exact h.printed
    · rw [heard (Option.isSome_of_eq_some hr)] at hbus
      exact hu.send hbus
  | readSnapshot free hp order =>
    rw [hp] at hstage
    cases hstage
  | readState free hp order =>
    rw [hp] at hstage
    exact ⟨count,h.keyed,h.printed,hstage⟩
  | @print output hp =>
    rw [hp] at hstage
    obtain ⟨hreceived,event,record,rfl,hrecord,hevent⟩ := hstage
    refine ⟨count+1,h.keyed,?_,?_⟩
    · rw [eventOutputs_succ hevent hrecord,h.printed,List.append_assoc]
    · have hnext : Received broadcast { s with printed := s.printed ++ [Output.event record] }
          (first+count+1) ∧ IsEvent (.event record) := ⟨hreceived,record,rfl⟩
      exact afterPrint_of
        (P:=Printing broadcast { s with printed := s.printed ++ [Output.event record] } _)
        (fun _ _ => hnext) (fun _ _ => hnext) hnext hnext hnext.1
  | writeTemporary hp hpath =>
    rw [hp] at hstage
    exact ⟨count,h.keyed,h.printed,hstage⟩
  | rename hp hpath =>
    rw [hp] at hstage
    refine ⟨count,h.keyed,h.printed,?_⟩
    exact afterState_of (P:=Printing broadcast { s with files := _ } _) hstage hstage
      (printing_handled hstage)
  | append hp hpath =>
    rw [hp] at hstage
    refine ⟨count,h.keyed,h.printed,?_⟩
    exact afterAppend_of (P:=Printing broadcast { s with files := _ } _) hstage
      (printing_handled hstage)
  | hook hp hexec =>
    rw [hp] at hstage
    exact ⟨count,h.keyed,h.printed,printing_handled hstage⟩
  | subscribe hp =>
    rw [hp] at hstage
    cases hstage
  | @receive event record next after hp hreceiver hevent hrecord =>
    rw [hp] at hstage
    obtain ⟨other,hr,hunread⟩ := hstage
    cases hreceiver.symm.trans hr
    rcases hunread.recv_cases with ⟨-,hr⟩|⟨other,_,hother,hr,hrest⟩|⟨-,missed,oldest,hr⟩
    · cases hevent.symm.trans hr
    · cases hevent.symm.trans hr
      exact ⟨count,h.keyed,h.printed,⟨_,rfl,hrest⟩,event,record,rfl,hrecord,hother⟩
    · cases hevent.symm.trans hr
  | cutTemporary | cutAppend | hookFails | stop => exact ⟨count,h.keyed,h.printed,hwithin⟩

/-- A command that subscribes has printed its listing and goes on from there. -/
theorem follows_subscribe {s s' : WatchRun ℓ γ ρ} (hk : KeyedById s.bus.registry.inner)
    (h : Opening s.printed s.stage) (hs : s.step broadcast locate command json .subscribe=some s') :
    ∃ agents, s.printed=[.snapshot agents] ∧
      Follows broadcast [.snapshot agents] s.bus.published.length s' 0 := by
  simp only [WatchRun.step] at hs
  split at hs
  · next hp =>
    cases hs
    rw [hp] at h
    obtain ⟨agents,hprinted⟩ := h
    exact ⟨agents,hprinted,hk,hprinted,broadcast.subscribe s.bus.channel,rfl,
      .subscribe broadcast s.bus⟩
  · cases hs

/-- Every step keeps the records under their own identifiers. -/
theorem keyed_step {s s' : WatchRun ℓ γ ρ} {action : WatchAction}
    (hk : KeyedById s.bus.registry.inner)
    (hs : s.step broadcast locate command json action=some s') :
    KeyedById s'.bus.registry.inner := by
  cases moves_of_step hs with
  | @start op bus hbus =>
    obtain ⟨sent,ht⟩ := run_transition hk op
    obtain ⟨-,-,hregistry,-⟩ := start_cases hk hbus
    exact hregistry ▸ ht.keyed
  | send hbus heard => exact (send_cases hbus).1 ▸ hk
  | readSnapshot | readState | print | writeTemporary | cutTemporary | rename | append => exact hk
  | cutAppend | hook | hookFails | subscribe | receive | stop => exact hk

/-- In every run with a broadcast channel of any capacity, however it ends: the printed lines are a
listing and the events that were published since the subscription up to some place, in order and
without a gap. When the command waits for an event, that place is the end. -/
theorem outputs_are_gapless (broadcast : Broadcast γ ρ AgentEvent capacity) (locate : Path → ℓ)
    (command : WatchCommand) (json : JsonFormat) (ttl : Duration) (files : Files ℓ)
    (before after : List WatchAction) {subscriber s : WatchRun ℓ γ ρ}
    (hbefore : exec (WatchRun.step broadcast locate command json) (WatchRun.new broadcast ttl files)
      before=some subscriber)
    (hafter : exec (WatchRun.step broadcast locate command json) subscriber (.subscribe :: after)=
      some s) :
    ∃ agents count, subscriber.printed=[.snapshot agents] ∧
      subscriber.bus.published.length+count ≤ s.bus.published.length ∧
      s.printed=.snapshot agents ::
        eventOutputs ((s.bus.published.drop subscriber.bus.published.length).take count) ∧
      (s.stage=.receive → s.step broadcast locate command json .receive=none →
        subscriber.bus.published.length+count=s.bus.published.length) := by
  have hk : KeyedById subscriber.bus.registry.inner :=
    invariant_of_exec (fun s : WatchRun ℓ γ ρ => KeyedById s.bus.registry.inner)
      (fun _ _ _ hk hs => keyed_step hk hs) hbefore (Journaled.new ttl).keyed
  have hopening : Opening subscriber.printed subscriber.stage :=
    invariant_of_exec (fun s : WatchRun ℓ γ ρ => Opening s.printed s.stage)
      (fun _ _ _ h hs => opening_step h hs) hbefore rfl
  obtain ⟨u,hsubscribe,hrest⟩ := exec_cons hafter
  obtain ⟨agents,hprinted,hstart⟩ := follows_subscribe hk hopening hsubscribe
  obtain ⟨count,h⟩ := invariant_of_exec
    (fun s => ∃ count, Follows broadcast [.snapshot agents] subscriber.bus.published.length s count)
    (fun _ _ _ ⟨_,h⟩ hs => h.step hs) hrest ⟨0,hstart⟩
  refine ⟨agents,count,hprinted,h.stage.within,h.printed,fun hp hwaits => ?_⟩
  have hstage := h.stage
  rw [hp] at hstage
  obtain ⟨next,hreceiver,hunread⟩ := hstage
  refine hunread.waits ?_
  simp only [WatchRun.step,hp,hreceiver] at hwaits
  split at hwaits
  · split at hwaits <;> cases hwaits
  · cases hwaits
  · next hr => exact hr

/-- A command that appends its lines to a file and runs a hook. -/
def recording : WatchCommand where
  writeState := none
  writeEvents := some (components "events.jsonl")
  exec := some "cat"

/-- The empty listing is handled. -/
def recordStart : List WatchAction :=
  [.read Iteration.ascending,.print true,.append .whole,.hook .succeeded]

/-- Behind the subscription an agent joins. -/
def recordJoin : List WatchAction :=
  [.start (.upsertRemote sampleAnnouncement 1),.send false,.receive,.print true,.append .whole,
   .hook .succeeded]

/-- The command before its subscription, with two slots and over missing files. -/
def unsubscribedWatch : WatchRun (List String) (Channel AgentEvent 2) ℕ :=
  (exec (WatchRun.step twoSlots atWork recording sampleJson)
    (WatchRun.new twoSlots 120000000000 fun _ => none) recordStart).get (by decide +kernel)

/-- The command behind the event. -/
def recordedWatch : WatchRun (List String) (Channel AgentEvent 2) ℕ :=
  (exec (WatchRun.step twoSlots atWork recording sampleJson) unsubscribedWatch
    (.subscribe :: recordJoin)).get (by decide +kernel)

/-- The command waits, with the listing and the only published event printed. -/
theorem outputs_are_gapless_recorded : recordedWatch.stage=.receive ∧
    recordedWatch.printed.length=2 ∧
    ∃ agents count, unsubscribedWatch.printed=[.snapshot agents] ∧
      recordedWatch.printed=.snapshot agents ::
        eventOutputs ((recordedWatch.bus.published.drop unsubscribedWatch.bus.published.length).take
          count) ∧
      unsubscribedWatch.bus.published.length+count=recordedWatch.bus.published.length := by
  have hbefore : exec (WatchRun.step twoSlots atWork recording sampleJson)
      (WatchRun.new twoSlots 120000000000 fun _ => none) recordStart=some unsubscribedWatch :=
    (Option.some_get _).symm
  have hafter : exec (WatchRun.step twoSlots atWork recording sampleJson) unsubscribedWatch
      (.subscribe :: recordJoin)=some recordedWatch := (Option.some_get _).symm
  have hstage : recordedWatch.stage=.receive := by decide +kernel
  have hwaits : recordedWatch.step twoSlots atWork recording sampleJson .receive=none := by
    rw [←Option.isNone_iff_eq_none]
    decide +kernel
  obtain ⟨agents,count,hopening,-,hprinted,hall⟩ := outputs_are_gapless twoSlots atWork recording
    sampleJson 120000000000 (fun _ => none) recordStart recordJoin hbefore hafter
  exact ⟨hstage,by decide +kernel,agents,count,hopening,hprinted,hall hstage hwaits⟩

section Sinks

variable {β : Type} {emit : Output → List β} {before text : List β} {printed pending : List Output}

/-- A sink has got the printed lines except for the pending ones. -/
def Delivered (emit : Output → List β) (before text : List β) (printed pending : List Output) :
    Prop :=
  ∃ done, printed=done ++ pending ∧ text=before ++ done.flatMap emit

/-- A sink has got the printed lines in order except for at most the last one, of which it may
have a part. -/
def Truncated (emit : Output → List β) (before text : List β) (printed : List Output) : Prop :=
  ∃ done rest part, printed=done ++ rest ∧ rest.length ≤ 1 ∧ part <+: rest.flatMap emit ∧
    text=before ++ done.flatMap emit ++ part

/-- A sink with at most one pending line. -/
theorem Delivered.truncated (h : Delivered emit before text printed pending)
    (hpending : pending.length ≤ 1) : Truncated emit before text printed := by
  obtain ⟨done,hprinted,htext⟩ := h
  exact ⟨done,pending,[],hprinted,hpending,List.nil_prefix,htext.trans (List.append_nil _).symm⟩

/-- A sink that gets a part of the pending line. -/
theorem Delivered.cut {output : Output} (h : Delivered emit before text printed [output])
    {part : List β} (hpart : part <+: emit output) :
    Truncated emit before (text ++ part) printed := by
  obtain ⟨done,hprinted,rfl⟩ := h
  refine ⟨done,[output],part,hprinted,le_refl _,?_,rfl⟩
  rwa [List.flatMap_singleton]

/-- A sink that gets the pending line. -/
theorem Delivered.deliver {output : Output} (h : Delivered emit before text printed [output]) :
    Delivered emit before (text ++ emit output) printed [] := by
  obtain ⟨done,hprinted,rfl⟩ := h
  refine ⟨done ++ [output],hprinted.trans (List.append_nil _).symm,?_⟩
  rw [List.flatMap_append,List.flatMap_singleton,List.append_assoc]

/-- A printed line is pending. -/
theorem Delivered.print (h : Delivered emit before text printed []) (output : Output) :
    Delivered emit before text (printed ++ [output]) [output] := by
  obtain ⟨done,hprinted,htext⟩ := h
  rw [List.append_nil] at hprinted
  exact ⟨done,congrArg (· ++ [output]) hprinted,htext⟩

/-- A sink without pending lines has got them all. -/
theorem Delivered.all (h : Delivered emit before text printed []) :
    text=before ++ printed.flatMap emit := by
  obtain ⟨done,hprinted,htext⟩ := h
  rw [htext,hprinted,List.append_nil]

end Sinks

/-- The lines that are still to be appended to the event file. -/
def unappended : WatchStage → List Output
  | .readState output => [output]
  | .writeTemporary _ output => [output]
  | .rename _ output => [output]
  | .append output => [output]
  | _ => []

/-- The lines that the hook is still to be run for. -/
def unhooked : WatchStage → List Output
  | .hook output => [output]
  | stage => unappended stage

/-- What a sink has got in a stage; behind the end of the command a line may be missing. -/
def Sunk {β : Type} (pending : WatchStage → List Output) (emit : Output → List β)
    (before text : List β) (s : WatchRun ℓ γ ρ) : Prop :=
  if s.stage=.stopped then Truncated emit before text s.printed
  else Delivered emit before text s.printed (pending s.stage)

/-- At most one line is pending for the event file. -/
theorem unappended_length (stage : WatchStage) : (unappended stage).length ≤ 1 := by
  cases stage <;> simp only [unappended,List.length_singleton,List.length_nil,le_refl,Nat.zero_le]

/-- At most one line is pending for the hook. -/
theorem unhooked_length (stage : WatchStage) : (unhooked stage).length ≤ 1 := by
  cases stage with
  | hook output => exact le_refl _
  | _ => simp only [unhooked,unappended_length]

section Steps

variable {β : Type} {emit : Output → List β} {before text : List β} {s : WatchRun ℓ γ ρ}
  {pending : WatchStage → List Output}

omit [DecidableEq ℓ] in
/-- What a sink has got in a stage before the end. -/
theorem Sunk.delivered (h : Sunk pending emit before text s) {stage : WatchStage}
    (hstage : s.stage=stage) (hrunning : stage ≠ .stopped) :
    Delivered emit before text s.printed (pending stage) := by
  rwa [Sunk,hstage,if_neg hrunning] at h

omit [DecidableEq ℓ] in
/-- What a sink has got, whatever the stage. -/
theorem sunk_of_delivered (hpending : ∀ stage, (pending stage).length ≤ 1)
    (h : Delivered emit before text s.printed (pending s.stage)) :
    Sunk pending emit before text s := by
  unfold Sunk
  split
  · exact h.truncated (hpending _)
  · exact h

omit [DecidableEq ℓ] in
/-- When the command ends, a sink lacks at most one line. -/
theorem Sunk.truncated (hpending : ∀ stage, (pending stage).length ≤ 1)
    (h : Sunk pending emit before text s) : Truncated emit before text s.printed := by
  unfold Sunk at h
  split at h
  · exact h
  · exact h.truncated (hpending _)

omit [DecidableEq ℓ] in
/-- A step that neither prints nor reaches the sink leaves it as it was. -/
theorem Sunk.keep (hpending : ∀ stage, (pending stage).length ≤ 1)
    (h : Sunk pending emit before text s) {s' : WatchRun ℓ γ ρ} {stage : WatchStage}
    (hstage : s.stage=stage) (hrunning : stage ≠ .stopped) (hprinted : s'.printed=s.printed)
    (hsame : pending s'.stage=pending stage) : Sunk pending emit before text s' := by
  refine sunk_of_delivered hpending ?_
  rw [hprinted,hsame]
  exact h.delivered hstage hrunning

/-- A line is pending for the hook until it is run. -/
theorem unhooked_afterAppend (hexec : command.exec=some shell) (output : Output) :
    unhooked (afterAppend command output)=[output] := by
  simp only [afterAppend,hexec,Option.isSome_some,if_true,unhooked]

/-- Behind the state file the line is still pending for the hook. -/
theorem unhooked_afterState (hexec : command.exec=some shell) (output : Output) :
    unhooked (afterState command output)=[output] := by
  unfold afterState
  split
  · rfl
  · exact unhooked_afterAppend hexec output

/-- A printed line is pending for the hook. -/
theorem unhooked_afterPrint (hexec : command.exec=some shell) (output : Output) :
    unhooked (afterPrint command output)=[output] := by
  unfold afterPrint
  split
  · cases output <;> rfl
  · exact unhooked_afterState hexec output

/-- What the event file has. -/
def contents (files : Files ℓ) (file : ℓ) : List UInt8 := (files file).getD []

/-- The run of the hook for a line. -/
def hookCall (json : JsonFormat) (shell : String) (output : Output) : HookCall where
  command := shell
  kind := output.kind
  payload := json.line output

/-- Every step hands the lines on to the hook. -/
theorem hooked_step (hexec : command.exec=some shell) {before : List HookCall}
    {s s' : WatchRun ℓ γ ρ} {action : WatchAction}
    (h : Sunk unhooked (fun output => [hookCall json shell output]) before s.hooked s)
    (hs : s.step broadcast locate command json action=some s') :
    Sunk unhooked (fun output => [hookCall json shell output]) before s'.hooked s' := by
  have hlength := unhooked_length
  have hlost := h.truncated hlength
  cases moves_of_step hs with
  | start | send => exact h
  | readSnapshot free hp order => exact h.keep hlength hp nofun rfl rfl
  | readState free hp order => exact h.keep hlength hp nofun rfl rfl
  | @print output hp =>
    refine sunk_of_delivered hlength ?_
    dsimp only
    rw [unhooked_afterPrint hexec]
    exact (h.delivered hp nofun).print output
  | writeTemporary hp hpath => exact h.keep hlength hp nofun rfl rfl
  | @rename agents output state hp hpath =>
    exact h.keep hlength hp nofun rfl (unhooked_afterState hexec output)
  | @append output other hp hpath =>
    exact h.keep hlength hp nofun rfl (unhooked_afterAppend hexec output)
  | @hook output other hp hother =>
    cases hexec.symm.trans hother
    have hnone : unhooked (handled output)=[] := by cases output <;> rfl
    refine sunk_of_delivered hlength ?_
    dsimp only
    rw [hnone]
    exact (h.delivered hp nofun).deliver
  | @hookFails output other hp hother =>
    cases hexec.symm.trans hother
    rw [Sunk,if_pos rfl]
    exact (h.delivered hp nofun).deliver.truncated (Nat.zero_le _)
  | subscribe hp => exact h.keep hlength hp nofun rfl rfl
  | receive hp => exact h.keep hlength hp nofun rfl rfl
  | cutTemporary | cutAppend | stop =>
    rw [Sunk,if_pos rfl]
    exact hlost

end Steps

/-- The whole run. -/
def recordRun : List WatchAction := recordStart ++ .subscribe :: recordJoin

/-- The command behind the whole run. -/
theorem recordRun_exec : exec (WatchRun.step twoSlots atWork recording sampleJson)
    (WatchRun.new twoSlots 120000000000 fun _ => none) recordRun=some recordedWatch :=
  exec_append (Option.some_get _).symm (Option.some_get _).symm

/-- However the command ends, the hook was run for the printed lines in order, once for each,
except for at most the last one. When the command waits it was run for all of them. -/
theorem hook_gets_lines (hexec : command.exec=some shell) (json : JsonFormat) (ttl : Duration)
    (files : Files ℓ) (actions : List WatchAction) {s : WatchRun ℓ γ ρ}
    (hrun : exec (WatchRun.step broadcast locate command json) (WatchRun.new broadcast ttl files)
      actions=some s) :
    (∃ done rest, s.printed=done ++ rest ∧ rest.length ≤ 1 ∧
      s.hooked=done.map (hookCall json shell)) ∧
    (s.stage=.receive → s.hooked=s.printed.map (hookCall json shell)) := by
  have hstart : Sunk unhooked (fun output => [hookCall json shell output]) []
      (WatchRun.new broadcast ttl files).hooked (WatchRun.new broadcast ttl files) :=
    sunk_of_delivered unhooked_length ⟨[],rfl,rfl⟩
  have h := invariant_of_exec
    (fun s : WatchRun ℓ γ ρ =>
      Sunk unhooked (fun output => [hookCall json shell output]) [] s.hooked s)
    (fun _ _ _ h hs => hooked_step hexec h hs) hrun hstart
  refine ⟨?_,fun hp => ?_⟩
  · obtain ⟨done,rest,part,hprinted,hrest,hpart,htext⟩ := h.truncated unhooked_length
    rw [←List.map_eq_flatMap] at hpart
    rw [List.nil_append,←List.map_eq_flatMap,List.prefix_iff_eq_take.mp hpart,←List.map_take,
      ←List.map_append] at htext
    refine ⟨done ++ rest.take part.length,rest.drop part.length,?_,?_,htext⟩
    · rw [List.append_assoc,List.take_append_drop,hprinted]
    · rw [List.length_drop]
      exact (Nat.sub_le _ _).trans hrest
  · rw [(h.delivered hp nofun).all,List.map_eq_flatMap,List.nil_append]

/-- The hook was run for the listing and for the event. -/
theorem hook_gets_lines_recorded : recordedWatch.hooked.map HookCall.kind=["snapshot","joined"] ∧
    recordedWatch.hooked=recordedWatch.printed.map (hookCall sampleJson "cat") :=
  ⟨by decide +kernel,(hook_gets_lines rfl sampleJson 120000000000 (fun _ => none) recordRun
    recordRun_exec).2 (by decide +kernel)⟩

end MeshPresence.WatchLines
