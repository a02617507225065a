import MeshPresence.ExactEviction
import MeshPresence.LocalEntry

/-!
# Shutdown is final when nothing is published behind its back

The shutdown withdraws the service and removes the local record before it joins
the heartbeat, and no publishing step looks at the shutdown flag. It is final
when no announcement is outstanding at the withdrawal, nothing at all at the
removal, neither a tick nor an update begins to publish after the withdrawal, and
no sweep finds the local record stale.
-/

namespace MeshPresence.ShutdownFinality

open FiniteMaps GuardedRuns AgentTypes AgentConfig AgentWire AgentRegistry AgentListener
open AnnouncementInvariant RegistryJournal ExactEviction MeshRuntime MeshEffects LocalEntry

/-- The call hands an announcement to the broadcaster. -/
def isAnnounce : BroadcasterCall → Bool
  | .announce _ => true
  | .unregister _ => false

/-- The call withdraws the service. -/
def isUnregister : BroadcasterCall → Bool
  | .announce _ => false
  | .unregister _ => true

/-- No announcement stands after a withdrawal. -/
def Withdrawn (wire : List BroadcasterCall) : Prop :=
  wire.Pairwise fun first second => isUnregister first=true → isAnnounce second=false

instance (wire : List BroadcasterCall) : Decidable (Withdrawn wire) :=
  inferInstanceAs (Decidable (List.Pairwise _ _))

/-- The last event about an agent. -/
def lastEvent (id : String) (events : List AgentEvent) : Option AgentEvent :=
  (events.filter fun e => e.agent.id=id).getLast?

/-- The local service is gone for good. -/
structure Final (config : ZeroConfConfig) (m : Mesh) : Prop where
  /-- The registry has no local record. -/
  entry : m.shared.registry.inner[config.agentId]?=none
  /-- The last event about the local agent is its graceful leave. -/
  event : ∃ agent, lastEvent config.agentId m.shared.registry.events=
    some (.left agent .localOrigin .graceful)
  /-- Nothing was announced after the withdrawal. -/
  wire : Withdrawn m.shared.wire

/-- The shutdown has withdrawn the service. -/
def hasWithdrawn : ShutdownPhase → Bool
  | .remove _ => true
  | .join => true
  | .returned => true
  | _ => false

/-- The shutdown has removed the local record. -/
def hasRemoved : ShutdownPhase → Bool
  | .join => true
  | .returned => true
  | _ => false

/-- The announcement that the shutdown still has to withdraw or to remove. -/
def targetOf : ShutdownPhase → Option AgentAnnouncement
  | .unregister announcement => some announcement
  | .remove announcement => some announcement
  | _ => none

/-- The start-up returned an error. -/
def hasFailed : StartPhase → Bool
  | .failed _ => true
  | _ => false

/-- The work has already announced its copy. -/
def isUpsert : Pending → Bool
  | .upsert _ => true
  | _ => false

/-- The mutator of a call would succeed now. -/
def mutates (m : Mesh) (i : ℕ) : Bool :=
  m.calls[i]?.any fun call => (call.update.apply m.shared.localAgent).isOk

/-- The sweep finds the local record not older than the TTL, or finds none. -/
def sweepsFresh (m : Mesh) : Action → Bool
  | .task (.sweep _ now) => m.shared.registry.inner[m.config.agentId]?.all fun agent =>
      !isStale agent now m.shared.registry.ttl
  | _ => true

/-- Nothing is published behind the back of the shutdown, and no sweep evicts the local
record as a stale one. -/
def undisturbed (m : Mesh) : Action → Bool
  | .shutdown .unregister => m.pendings.all isUpsert
  | .shutdown .remove => m.pendings.isEmpty
  | .tick .clone => !hasWithdrawn m.shutdown
  | .call (.mutate i) => !hasWithdrawn m.shutdown || !mutates m i
  | .task task => sweepsFresh m (.task task)
  | _ => true

/-- The guard of an undisturbed run. -/
def Undisturbed (m : Mesh) (action : Action) : Prop := undisturbed m action=true

instance (m : Mesh) (action : Action) : Decidable (Undisturbed m action) :=
  inferInstanceAs (Decidable (_=true))

/-- What an undisturbed run keeps true of an advertising node. -/
structure Departing (config : ZeroConfConfig) (m : Mesh) : Prop where
  /-- The node keeps its identity. -/
  identity : LocalInvariant config m
  /-- Only a running node is shut down. -/
  started : m.shutdown ≠ .idle → m.start=.running
  /-- The node advertises. -/
  advertising : m.start ≠ .listenOnly
  /-- The shutdown is about the local agent. -/
  target : ∀ a, targetOf m.shutdown=some a → a.agentId=config.agentId
  /-- Before the withdrawal only announcements were made. -/
  announcing : hasWithdrawn m.shutdown=false → hasFailed m.start=false →
    ∀ call ∈ m.shared.wire, isUnregister call=false
  /-- Before the removal a running node has its local record. -/
  present : hasRemoved m.shutdown=false → m.start=.running →
    m.shared.registry.inner[config.agentId]?.isSome=true
  /-- After the withdrawal at most upserts are outstanding. -/
  withdrawn : hasWithdrawn m.shutdown=true →
    (∀ p ∈ m.pendings, isUpsert p=true) ∧ Withdrawn m.shared.wire
  /-- After the removal nothing is outstanding. -/
  removed : hasRemoved m.shutdown=true → m.pendings=[] ∧ Final config m

/-- The removal comes after the withdrawal. -/
theorem withdrawn_of_removed {phase : ShutdownPhase} (h : hasRemoved phase=true) :
    hasWithdrawn phase=true := by
  cases phase with
  | join | returned => rfl
  | idle | signalled | unregister a | remove a => cases h

/-- Events about other agents leave the last event about an agent. -/
theorem lastEvent_append_other {id : String} (events : List AgentEvent) {sent : List AgentEvent}
    (h : ∀ e ∈ sent, e.agent.id ≠ id) : lastEvent id (events ++ sent)=lastEvent id events := by
  have hnil : (sent.filter fun e => e.agent.id=id)=[] :=
    List.filter_eq_nil_iff.mpr fun e he => by simp only [decide_eq_true_eq,h e he,not_false_eq_true]
  rw [lastEvent,List.filter_append,hnil,List.append_nil,lastEvent]

/-- An event about an agent is the last one when it is sent. -/
theorem lastEvent_concat {id : String} (events : List AgentEvent) {e : AgentEvent}
    (h : e.agent.id=id) : lastEvent id (events ++ [e])=some e := by
  have hone : [e].filter (fun e => e.agent.id=id)=[e] :=
    List.filter_cons_of_pos (decide_eq_true h)
  rw [lastEvent,List.filter_append,hone,List.getLast?_concat]

/-- A withdrawal may follow announcements. -/
theorem withdrawn_concat {wire : List BroadcasterCall} (name : String)
    (h : ∀ call ∈ wire, isUnregister call=false) : Withdrawn (wire ++ [.unregister name]) := by
  refine List.pairwise_append.mpr ⟨?_,List.pairwise_singleton _ _,?_⟩
  · refine List.pairwise_of_forall_mem_list fun first hf second _ hu => ?_
    rw [h first hf] at hu
    cases hu
  · intro first _ second hs _
    cases List.mem_singleton.mp hs
    rfl

section Steps

variable {mac : Mac} {config : ZeroConfConfig} {m m' : Mesh}

/-- Removing a present record by its own identifier reports its leave. -/
theorem removeLocal_final {r : Registry} (hk : KeyedById r.inner) {id : String}
    (h : r.inner[id]?.isSome=true) :
    (r.removeLocal id).2.inner[id]?=none ∧
      ∃ agent, lastEvent id (r.removeLocal id).2.events=some (.left agent .localOrigin .graceful) := by
  obtain ⟨agent,hagent⟩ := Option.isSome_iff_exists.mp h
  refine ⟨removeWithOrigin_same r id .localOrigin .graceful,agent,?_⟩
  simp only [Registry.removeLocal,Registry.removeWithOrigin,hagent,Registry.send]
  exact lastEvent_concat r.events (hk id agent hagent)

/-- Steps of calls, ticks and tasks, given what they do to the wire, to the pending
work and to the local record. -/
theorem Departing.frame (h : Departing config m) (hidentity : LocalInvariant config m')
    (hphases : m'.start=m.start ∧ m'.shutdown=m.shutdown)
    (hwire : m'.shared.wire=m.shared.wire ∨ hasWithdrawn m.shutdown=false ∧
      ∃ snapshot, m'.shared=m.shared.announce snapshot)
    (hpendings : hasWithdrawn m.shutdown=true →
      ∀ p ∈ m'.pendings, p ∈ m.pendings)
    (hpresent : m.shared.registry.inner[config.agentId]?.isSome=true →
      m'.shared.registry.inner[config.agentId]?.isSome=true)
    (hremoved : hasRemoved m.shutdown=true →
      m'.shared.registry.inner[config.agentId]?=m.shared.registry.inner[config.agentId]? ∧
      lastEvent config.agentId m'.shared.registry.events=
        lastEvent config.agentId m.shared.registry.events) :
    Departing config m' := by
  obtain ⟨hstart,hshutdown⟩ := hphases
  have hlate : hasWithdrawn m.shutdown=true → Withdrawn m'.shared.wire := by
    intro hw
    rcases hwire with hwire|⟨hwire,-⟩
    · exact hwire ▸ (h.withdrawn hw).2
    · rw [hw] at hwire
      cases hwire
  refine ⟨hidentity,?_,?_,?_,?_,?_,?_,?_⟩
  · rw [hstart,hshutdown]
    exact h.started
  · rw [hstart]
    exact h.advertising
  · rw [hshutdown]
    exact h.target
  · rw [hshutdown,hstart]
    intro hw hf call hc
    rcases hwire with hwire|⟨-,snapshot,hwire⟩
    · exact h.announcing hw hf call (hwire ▸ hc)
    · rw [hwire] at hc
      rcases List.mem_append.mp hc with hc|hc
      · exact h.announcing hw hf call hc
      · cases List.mem_singleton.mp hc
        rfl
  · rw [hshutdown,hstart]
    exact fun hr hs => hpresent (h.present hr hs)
  · rw [hshutdown]
    exact fun hw => ⟨fun p hp => (h.withdrawn hw).1 p (hpendings hw p hp),hlate hw⟩
  · rw [hshutdown]
    intro hr
    obtain ⟨hentry,hevent⟩ := hremoved hr
    obtain ⟨hempty,hfinal⟩ := h.removed hr
    have hw := withdrawn_of_removed hr
    refine ⟨List.eq_nil_iff_forall_not_mem.mpr fun p hp => ?_,hentry.trans hfinal.entry,?_,
      hlate hw⟩
    · exact absurd (hempty ▸ hpendings hw p hp) List.not_mem_nil
    · rw [hevent]
      exact hfinal.event

/-- Outstanding work that is no upsert means that nothing was withdrawn. -/
theorem Departing.notWithdrawn (h : Departing config m) {p : Pending} (hp : p ∈ m.pendings)
    (hu : isUpsert p=false) : hasWithdrawn m.shutdown=false := by
  refine Bool.eq_false_iff.mpr fun hw => ?_
  rw [(h.withdrawn hw).1 p hp] at hu
  cases hu

/-- Outstanding work means that nothing was removed. -/
theorem Departing.notRemoved (h : Departing config m) {p : Pending} (hp : p ∈ m.pendings) :
    hasRemoved m.shutdown=false := by
  refine Bool.eq_false_iff.mpr fun hr => ?_
  rw [(h.removed hr).1] at hp
  exact List.not_mem_nil hp

/-- Nothing was removed when nothing was withdrawn. -/
theorem notRemoved_of_notWithdrawn {phase : ShutdownPhase} (h : hasWithdrawn phase=false) :
    hasRemoved phase=false :=
  Bool.eq_false_iff.mpr fun hr => Bool.eq_false_iff.mp h (withdrawn_of_removed hr)

/-- A step that leaves wire, registry and phases alone, and adds work only before
the withdrawal. -/
theorem Departing.frameQuiet (h : Departing config m) (hidentity : LocalInvariant config m')
    (hphases : m'.start=m.start ∧ m'.shutdown=m.shutdown) (hwire : m'.shared.wire=m.shared.wire)
    (hregistry : m'.shared.registry=m.shared.registry)
    (hpendings : hasWithdrawn m.shutdown=true → ∀ p ∈ m'.pendings, p ∈ m.pendings) :
    Departing config m' :=
  h.frame hidentity hphases (Or.inl hwire) hpendings (by rw [hregistry]; exact id)
    fun _ => by rw [hregistry]; exact ⟨rfl,rfl⟩

/-- Undisturbed steps of calls, ticks and tasks. -/
theorem Departing.runtimeStep {action : Action} (h : Departing config m)
    (hg : Undisturbed m action) (hs : step mac m action=some m') (hstart : party action ≠ .start)
    (hshutdown : party action ≠ .shutdown) : Departing config m' := by
  have hidentity := h.identity.step hs
  have hframe := step_frame hs
  have hphases : m'.start=m.start ∧ m'.shutdown=m.shutdown :=
    ⟨hframe.start hstart,hframe.shutdown hshutdown⟩
  have hnone : ∀ {old : Option Pending}, Work m old none m' → ∀ p ∈ m'.pendings, p ∈ m.pendings := by
    intro old work p hp
    rcases work.only p hp with hp|hp
    · exact hp
    · cases hp
  have hlate : hasWithdrawn m.shutdown=false → hasWithdrawn m.shutdown=true →
      ∀ p ∈ m'.pendings, p ∈ m.pendings :=
    fun hearly hw => absurd (hearly.symm.trans hw) Bool.false_ne_true
  cases step_effect hs with
  | quiet shared work =>
    exact h.frameQuiet hidentity hphases (by rw [shared]) (by rw [shared]) fun _ => hnone work
  | abandon snapshot error source shared work =>
    rw [source] at hstart
    exact absurd rfl hstart
  | skip discovery shared work =>
    exact h.frameQuiet hidentity hphases (by rw [shared]) (by rw [shared]) fun _ => hnone work
  | mutate i call source hcall succeeds shared work =>
    have hmutates : mutates m i=true := by
      rw [mutates,hcall,Option.any_some]
      exact succeeds
    rw [Undisturbed,source,undisturbed,hmutates,Bool.not_true,Bool.or_false,
      Bool.not_eq_true'] at hg
    exact h.frameQuiet hidentity hphases (by rw [shared]; rfl) (by rw [shared]; rfl) (hlate hg)
  | clone tick waiting shared work =>
    rw [Undisturbed,tick,undisturbed,Bool.not_eq_true'] at hg
    exact h.frameQuiet hidentity hphases (by rw [shared]; rfl) (by rw [shared]; rfl) (hlate hg)
  | refresh advertises shared work =>
    have hearly := h.notWithdrawn (work.was _ rfl) rfl
    obtain ⟨hregistry,hwire,-⟩ := sign_frame mac m.shared m.config.sharedSecretAuth
    exact h.frameQuiet hidentity hphases (by rw [shared]; exact hwire)
      (by rw [shared]; exact hregistry) (hlate hearly)
  | announce snapshot source shared next hnext work =>
    have hearly := h.notWithdrawn (work.was _ rfl) rfl
    have hkept := notRemoved_of_notWithdrawn hearly
    exact h.frame hidentity hphases (Or.inr ⟨hearly,snapshot,shared⟩) (hlate hearly)
      (by rw [shared]; exact id) fun hr => absurd (hkept.symm.trans hr) Bool.false_ne_true
  | upsert snapshot now source shared work =>
    have hwas := work.was _ rfl
    have hkept := h.notRemoved hwas
    have hsame := upsertWithOriginAt_same m.shared.registry snapshot.announcement now .localOrigin
    rw [(h.identity.copies _ hwas _ rfl).1] at hsame
    refine h.frame hidentity hphases (Or.inl (by rw [shared]; rfl)) (fun _ => hnone work)
      (fun _ => ?_) fun hr => absurd (hkept.symm.trans hr) Bool.false_ne_true
    rw [shared]
    exact Option.isSome_of_eq_some hsame
  | browse event task shared work =>
    obtain ⟨-,hsame,sent,hevents,habout⟩ := handle_local mac
      (Listener.ofConfig m.config) h.identity.keyed
      (by rw [h.identity.unchanged]; exact h.identity.entry) event
    rw [h.identity.unchanged] at hsame shared hevents habout
    refine h.frame hidentity hphases (Or.inl (by rw [shared])) (fun _ => hnone work) ?_ fun _ => ?_
    · rw [shared]
      exact fun hp => hsame ▸ hp
    · rw [shared]
      exact ⟨hsame,hevents ▸ lastEvent_append_other _ habout⟩
  | sweep order now task shared work =>
    rw [Undisturbed,task,undisturbed,sweepsFresh,h.identity.unchanged] at hg
    have hfresh : ∀ agent : AgentInfo, m.shared.registry.inner[config.agentId]?=some agent →
        isStale agent now m.shared.registry.ttl=false := by
      intro agent hagent
      rwa [hagent,Option.all_some,Bool.not_eq_true'] at hg
    obtain ⟨hkept,hothers⟩ := evictStaleAt_keeps h.identity.keyed hfresh order
    refine h.frame hidentity hphases (Or.inl (by rw [shared])) (fun _ => hnone work) ?_ fun _ => ?_
    · rw [shared]
      exact fun hp => hkept ▸ hp
    · rw [shared]
      refine ⟨hkept,?_⟩
      rw [evictStaleAt_events]
      refine lastEvent_append_other _ fun e he => ?_
      obtain ⟨agent,hagent,rfl⟩ := List.mem_map.mp he
      exact hothers agent hagent
  | withdraw announcement source shared work =>
    rw [source] at hshutdown
    exact absurd rfl hshutdown
  | remove announcement source shared work =>
    rw [source] at hshutdown
    exact absurd rfl hshutdown

/-- Before the shutdown only the start-up matters. -/
theorem Departing.ofIdle (hidentity : LocalInvariant config m) (hidle : m.shutdown=.idle)
    (hadvertising : m.start ≠ .listenOnly)
    (hannouncing : hasFailed m.start=false → ∀ call ∈ m.shared.wire, isUnregister call=false)
    (hpresent : m.start=.running → m.shared.registry.inner[config.agentId]?.isSome=true) :
    Departing config m := by
  refine ⟨hidentity,fun h => absurd hidle h,hadvertising,fun a ha => ?_,fun _ => hannouncing,
    fun _ => hpresent,fun hw => ?_,fun hr => ?_⟩
  · rw [hidle] at ha
    cases ha
  · rw [hidle] at hw
    cases hw
  · rw [hidle] at hr
    cases hr

/-- Before the withdrawal the service is announced and the record present. -/
theorem Departing.ofNotWithdrawn (hidentity : LocalInvariant config m) (hstart : m.start=.running)
    (hearly : hasWithdrawn m.shutdown=false)
    (htarget : ∀ a, targetOf m.shutdown=some a → a.agentId=config.agentId)
    (hannouncing : ∀ call ∈ m.shared.wire, isUnregister call=false)
    (hpresent : m.shared.registry.inner[config.agentId]?.isSome=true) : Departing config m := by
  have hkept := notRemoved_of_notWithdrawn hearly
  refine ⟨hidentity,fun _ => hstart,fun hl => ?_,htarget,fun _ _ => hannouncing,
    fun _ _ => hpresent,fun hw => ?_,fun hr => ?_⟩
  · cases hstart.symm.trans hl
  · exact absurd (hearly.symm.trans hw) Bool.false_ne_true
  · exact absurd (hkept.symm.trans hr) Bool.false_ne_true

/-- Between the withdrawal and the removal the record is still present. -/
theorem Departing.ofWithdrawn (hidentity : LocalInvariant config m) (hstart : m.start=.running)
    {a : AgentAnnouncement} (hphase : m.shutdown=.remove a) (htarget : a.agentId=config.agentId)
    (hpresent : m.shared.registry.inner[config.agentId]?.isSome=true)
    (hupserts : ∀ p ∈ m.pendings, isUpsert p=true) (hwire : Withdrawn m.shared.wire) :
    Departing config m := by
  refine ⟨hidentity,fun _ => hstart,fun hl => ?_,fun b hb => ?_,fun he => ?_,fun _ _ => hpresent,
    fun _ => ⟨hupserts,hwire⟩,fun hr => ?_⟩
  · cases hstart.symm.trans hl
  · rw [hphase] at hb
    cases hb
    exact htarget
  · rw [hphase] at he
    cases he
  · rw [hphase] at hr
    cases hr

/-- After the removal nothing is outstanding. -/
theorem Departing.ofRemoved (hidentity : LocalInvariant config m) (hstart : m.start=.running)
    (hremoved : hasRemoved m.shutdown=true) (htarget : targetOf m.shutdown=none)
    (hempty : m.pendings=[]) (hfinal : Final config m) : Departing config m := by
  have hw := withdrawn_of_removed hremoved
  refine ⟨hidentity,fun _ => hstart,fun hl => ?_,fun a ha => ?_,fun he => ?_,fun hk => ?_,
    fun _ => ⟨fun p hp => ?_,hfinal.wire⟩,fun _ => ⟨hempty,hfinal⟩⟩
  · cases hstart.symm.trans hl
  · cases htarget.symm.trans ha
  · exact absurd (he.symm.trans hw) Bool.false_ne_true
  · exact absurd (hk.symm.trans hremoved) Bool.false_ne_true
  · rw [hempty] at hp
    exact absurd hp List.not_mem_nil

/-- Steps of the start-up. -/
theorem Departing.startStep {action : StartAction} (h : Departing config m)
    (hs : step mac m (.start action)=some m') : Departing config m' := by
  have hidentity := h.identity.step hs
  have hidle : ∀ phase, m.start=phase → phase ≠ .running → m.shutdown=.idle := by
    rintro phase rfl hn
    exact by_contra fun hidle => hn (h.started hidle)
  have hold : ∀ phase, m.start=phase → phase ≠ .running → hasFailed phase=false →
      ∀ call ∈ m.shared.wire, isUnregister call=false := by
    rintro phase rfl hn hf
    exact h.announcing (by rw [hidle _ rfl hn]; rfl) hf
  have hannounce : ∀ snapshot, m.start=.announce snapshot →
      ∀ call ∈ (m.shared.announce snapshot).wire, isUnregister call=false := by
    intro snapshot hstart call hc
    rcases List.mem_append.mp hc with hc|hc
    · exact hold _ hstart (fun hr => by cases hr) rfl call hc
    · cases List.mem_singleton.mp hc
      rfl
  cases startStep_cases hs with
  | announce snapshot hstart | announceFailed snapshot hstart _ =>
    have hi := hidle _ hstart (fun hr => by cases hr)
    exact .ofIdle hidentity hi (fun hl => by cases hl) (fun _ => hannounce snapshot hstart)
      fun hr => by cases hr
  | listen snapshot hstart =>
    have hi := hidle _ hstart (fun hr => by cases hr)
    exact .ofIdle hidentity hi (fun hl => by cases hl)
      (fun _ => hold _ hstart (fun hr => by cases hr) rfl) fun hr => by cases hr
  | abandon snapshot hstart _ =>
    have hi := hidle _ hstart (fun hr => by cases hr)
    exact .ofIdle hidentity hi (fun hl => by cases hl) (fun hf => by cases hf)
      fun hr => by cases hr
  | listenOnly hstart | listenFailed hstart _ => exact absurd hstart h.advertising
  | upsert snapshot now hstart _ =>
    have hi := hidle _ hstart (fun hr => by cases hr)
    have hpending : Pending.upsert snapshot ∈ m.pendings :=
      mem_pendings.mpr (Or.inl (congrArg StartPhase.pending hstart))
    have hsame := upsertWithOriginAt_same m.shared.registry snapshot.announcement now .localOrigin
    rw [(h.identity.copies _ hpending _ rfl).1] at hsame
    exact .ofIdle hidentity hi (fun hl => by cases hl)
      (fun _ => hold _ hstart (fun hr => by cases hr) rfl) fun _ => Option.isSome_of_eq_some hsame

/-- Undisturbed steps of the shutdown. -/
theorem Departing.shutdownStep {action : ShutdownAction} (hadvertise : config.advertiseLocal=true)
    (h : Departing config m) (hg : Undisturbed m (.shutdown action))
    (hs : step mac m (.shutdown action)=some m') : Departing config m' := by
  have hidentity := h.identity.step hs
  have hstarted : ∀ phase, m.shutdown=phase → phase ≠ .idle → m.start=.running := by
    rintro phase rfl hn
    exact h.started hn
  have hpresent : ∀ phase, m.shutdown=phase → hasRemoved phase=false → m.start=.running →
      m.shared.registry.inner[config.agentId]?.isSome=true := by
    rintro phase rfl
    exact h.present
  have hannouncing : ∀ phase, m.shutdown=phase → hasWithdrawn phase=false → m.start=.running →
      ∀ call ∈ m.shared.wire, isUnregister call=false := by
    rintro phase rfl hw hstart
    exact h.announcing hw (by rw [hstart]; rfl)
  cases shutdownStep_cases hs with
  | signal hstart hphase =>
    exact .ofNotWithdrawn hidentity hstart rfl (fun a ha => by cases ha)
      (hannouncing _ hphase rfl hstart) (hpresent _ hphase rfl hstart)
  | clone hphase _ =>
    have hstart := hstarted _ hphase (fun hi => by cases hi)
    refine .ofNotWithdrawn hidentity hstart rfl (fun a ha => ?_) (hannouncing _ hphase rfl hstart)
      (hpresent _ hphase rfl hstart)
    cases ha
    exact h.identity.localAgent.1
  | skip _ discovery =>
    rw [h.identity.unchanged,hadvertise] at discovery
    cases discovery
  | unregister announcement hphase =>
    have hstart := hstarted _ hphase (fun hi => by cases hi)
    have htarget := h.target announcement (by rw [hphase]; rfl)
    exact .ofWithdrawn hidentity hstart rfl htarget (hpresent _ hphase rfl hstart)
      (List.all_eq_true.mp hg) (withdrawn_concat _ (hannouncing _ hphase rfl hstart))
  | remove announcement hphase =>
    have hstart := hstarted _ hphase (fun hi => by cases hi)
    have htarget := h.target announcement (by rw [hphase]; rfl)
    obtain ⟨-,hwire⟩ := h.withdrawn (by rw [hphase]; rfl)
    obtain ⟨hentry,hevent⟩ := removeLocal_final h.identity.keyed (hpresent _ hphase rfl hstart)
    rw [htarget] at hidentity ⊢
    exact .ofRemoved hidentity hstart rfl rfl (List.isEmpty_iff.mp hg) ⟨hentry,hevent,hwire⟩
  | join hphase _ _ =>
    have hstart := hstarted _ hphase (fun hi => by cases hi)
    obtain ⟨hempty,hfinal⟩ := h.removed (by rw [hphase]; rfl)
    exact .ofRemoved hidentity hstart rfl rfl hempty ⟨hfinal.entry,hfinal.event,hfinal.wire⟩

/-- Every undisturbed step keeps the invariant. -/
theorem Departing.step {action : Action} (hadvertise : config.advertiseLocal=true)
    (h : Departing config m) (hg : Undisturbed m action)
    (hs : MeshRuntime.step mac m action=some m') : Departing config m' := by
  cases action with
  | start action => exact h.startStep hs
  | shutdown action => exact h.shutdownStep hadvertise hg hs
  | call action | tick action | task action =>
    exact h.runtimeStep hg hs (fun hp => by cases hp) (fun hp => by cases hp)

/-- An advertising node starts with the invariant. -/
theorem Departing.init (hvalid : Validated config) (hadvertise : config.advertiseLocal=true)
    (h : Mesh.init mac config=.ok m) : Departing config m := by
  have hidentity := LocalInvariant.init hvalid h
  obtain ⟨a,-,rfl⟩ := init_ok h
  obtain ⟨-,hwire,-⟩ := sign_frame mac (unsigned config a) config.sharedSecretAuth
  have hempty : ∀ call ∈ ((unsigned config a).sign mac config.sharedSecretAuth).copied.wire,
      isUnregister call=false := by
    rw [Shared.copied,hwire]
    exact fun _ hc => absurd hc List.not_mem_nil
  rw [hadvertise,if_pos rfl] at hidentity ⊢
  exact .ofIdle hidentity rfl (fun hl => by cases hl) (fun _ => hempty) fun hr => by cases hr

end Steps

/-- The shutdown of an advertising node is final after every undisturbed run: once
it has returned, the registry has no local record, the last event about the local
agent is its graceful leave, and nothing was announced after the withdrawal. -/
theorem shutdown_final (mac : Mac) (config : ZeroConfConfig) (hvalid : Validated config)
    (hadvertise : config.advertiseLocal=true) {m₀ m : Mesh} (h₀ : Mesh.init mac config=.ok m₀)
    (actions : List Action) (hg : Guarded (step mac) Undisturbed m₀ actions)
    (hrun : exec (step mac) m₀ actions=some m) (hreturned : m.shutdown=.returned) :
    Final config m := by
  have h : Departing config m :=
    invariant_of_guarded (Departing config)
      (fun _ _ _ h hg hs => h.step hadvertise hg hs) hg hrun (Departing.init hvalid hadvertise h₀)
  exact (h.removed (by rw [hreturned]; rfl)).2

/-- Steps of the shutdown up to the removal of the local record. -/
def removal : List Action :=
  [.shutdown .signal,.shutdown .clone,.shutdown .unregister,.shutdown .remove]

/-- Ends of the tasks and of the shutdown. -/
def joined : List Action :=
  [.tick .stop,.task .stopSweeper,.task .stopListener,.shutdown .join]

/-- An update and a tick that are over before the shutdown begins, and a sweep before and
behind the removal. -/
def calmShutdown : List Action :=
  startUp ++ [.call (.begin (.status .busy)),.call (.mutate 0),.call (.refresh 0),
    .call (.announce 0 (.ok ())),.call (.upsert 0 1),.tick .clone,.tick (.announce (.ok ())),
    .tick (.upsert 2),.task (.sweep Iteration.ascending 3)] ++ removal ++
    [.task (.sweep Iteration.ascending 4)] ++ joined

/-- The small node after the calm shutdown. -/
def calmNode : Mesh := (exec (step Mac.recorded) sampleNode calmShutdown).get (by decide +kernel)

/-- The calm shutdown is final. -/
theorem shutdown_final_calm : Final sampleConfig calmNode :=
  shutdown_final Mac.recorded sampleConfig sampleConfig_validated rfl (Mesh.init_initial _)
    calmShutdown (by decide +kernel) (Option.some_get _).symm (by decide +kernel)

/-- A tick copies the announcement before the shutdown and publishes it after the
removal. -/
def lateTick : List Action :=
  startUp ++ [.tick .clone] ++ removal ++ [.tick (.announce (.ok ())),.tick (.upsert 1)] ++ joined

/-- The small node after the late tick. -/
def revivedNode : Mesh := (exec (step Mac.recorded) sampleNode lateTick).get (by decide +kernel)

/-- A late tick brings the local agent back: it is in the registry, the last event
about it is a join, and the service is announced after its withdrawal. -/
theorem late_tick_revives_agent :
    Validated sampleConfig ∧ sampleConfig.advertiseLocal=true ∧
    Mesh.init Mac.recorded sampleConfig=.ok sampleNode ∧
    exec (step Mac.recorded) sampleNode lateTick=some revivedNode ∧
    revivedNode.shutdown=.returned ∧ revivedNode.Quiescent ∧
    revivedNode.shared.registry.inner[sampleConfig.agentId]? ≠ none ∧
    (∀ agent, lastEvent sampleConfig.agentId revivedNode.shared.registry.events ≠
      some (.left agent .localOrigin .graceful)) ∧
    ¬Withdrawn revivedNode.shared.wire := by
  have hreason : (lastEvent sampleConfig.agentId revivedNode.shared.registry.events).bind
      AgentEvent.departureReason=none := by decide +kernel
  refine ⟨sampleConfig_validated,rfl,Mesh.init_initial _,(Option.some_get _).symm,?_,?_,?_,
    fun agent h => ?_,?_⟩
  · decide +kernel
  · decide +kernel
  · decide +kernel
  · rw [h] at hreason
    cases hreason
  · decide +kernel

end MeshPresence.ShutdownFinality
