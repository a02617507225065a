import MeshPresence.LocalEntry

/-!
# Publication of the local announcement

A copy of the local announcement is made in one lock section and published in two
later steps, by the start-up, by update calls and by heartbeat ticks at once. When
every publication is that of an oldest waiting copy, the last announcement and
the local record carry the local announcement whenever no call and no tick is in
progress. Without this order a stale copy can overtake a newer one.
-/

namespace MeshPresence.LocalPublication

open GuardedRuns OrderedPublication AgentTypes AgentConfig AgentWire AgentRegistry
open AgentListener AnnouncementInvariant MeshRuntime MeshEffects LocalEntry

/-- The announcements among the calls of the broadcaster. -/
def announcements (wire : List BroadcasterCall) : List AgentAnnouncement :=
  wire.filterMap fun call =>
    match call with
    | .announce announcement => some announcement
    | .unregister _ => none

/-- The last announcement handed to the broadcaster. -/
def lastAnnounced (wire : List BroadcasterCall) : Option AgentAnnouncement :=
  (announcements wire).getLast?

/-- The copy that still waits to be announced. -/
def announceOf : Pending → Option Snapshot
  | .announce snapshot => some snapshot
  | _ => none

/-- Copies that wait for a kind of publication. -/
def awaiting (waits : Pending → Option Snapshot) (m : Mesh) : List Snapshot :=
  m.pendings.filterMap waits

/-- A publication step publishes an oldest of the copies that wait for it. -/
def inOrder (m : Mesh) (action : Action) : Bool :=
  ((announced m action).all fun snapshot =>
    (awaiting announceOf m).all fun other => snapshot.ticket≤other.ticket) &&
  ((upserted m action).all fun snapshot =>
    (awaiting copyOf m).all fun other => snapshot.ticket≤other.ticket)

/-- Steps of the start-up, of update calls, of the heartbeat and of the network. -/
def isPublishing : Action → Bool
  | .start _ => true
  | .call _ => true
  | .tick _ => true
  | .task (.browse _) => true
  | _ => false

/-- A publishing step in which the daemon accepts every announcement. -/
def Accepting (_ : Mesh) (action : Action) : Prop :=
  isPublishing action=true ∧ fails action=false

instance (m : Mesh) (action : Action) : Decidable (Accepting m action) :=
  inferInstanceAs (Decidable (_ ∧ _))

/-- An accepting step that keeps the order of the copies. -/
def OrderedStep (m : Mesh) (action : Action) : Prop := Accepting m action ∧ inOrder m action=true

instance (m : Mesh) (action : Action) : Decidable (OrderedStep m action) :=
  inferInstanceAs (Decidable (_ ∧ _))

/-- A copy as a numbered value. -/
def numbered (snapshot : Snapshot) : ℕ × AgentAnnouncement :=
  (snapshot.ticket,snapshot.announcement)

/-- The numbered copies that wait for a kind of publication. -/
def waiting (waits : Pending → Option Snapshot) (m : Mesh) : Set (ℕ × AgentAnnouncement) :=
  { value | ∃ snapshot ∈ awaiting waits m, numbered snapshot=value }

section Waiting

variable {waits : Pending → Option Snapshot} {m m' : Mesh} {old new : Option Pending}

/-- The old piece of work waited. -/
theorem waiting_was (h : Work m old new m') {snapshot : Snapshot}
    (hold : old.bind waits=some snapshot) : numbered snapshot ∈ waiting waits m := by
  obtain ⟨p,hp,hw⟩ := Option.bind_eq_some_iff.mp hold
  exact ⟨snapshot,List.mem_filterMap.mpr ⟨p,h.was p hp,hw⟩,rfl⟩

/-- Only the new piece of work starts to wait. -/
theorem waiting_only (h : Work m old new m') {value : ℕ × AgentAnnouncement}
    (hv : value ∈ waiting waits m') :
    value ∈ waiting waits m ∨ ∃ snapshot, new.bind waits=some snapshot ∧ numbered snapshot=value := by
  obtain ⟨snapshot,hs,rfl⟩ := hv
  obtain ⟨p,hp,hw⟩ := List.mem_filterMap.mp hs
  rcases h.only p hp with hp|hp
  · exact Or.inl ⟨snapshot,List.mem_filterMap.mpr ⟨p,hp,hw⟩,rfl⟩
  · exact Or.inr ⟨snapshot,by rw [hp]; exact hw,rfl⟩

/-- Only the old piece of work stops waiting. -/
theorem waiting_kept (h : Work m old new m') {value : ℕ × AgentAnnouncement}
    (hv : value ∈ waiting waits m) :
    (∃ snapshot, old.bind waits=some snapshot ∧ numbered snapshot=value) ∨
      value ∈ waiting waits m' := by
  obtain ⟨snapshot,hs,rfl⟩ := hv
  obtain ⟨p,hp,hw⟩ := List.mem_filterMap.mp hs
  rcases h.kept p hp with hp|hp
  · exact Or.inl ⟨snapshot,by rw [hp]; exact hw,rfl⟩
  · exact Or.inr ⟨snapshot,List.mem_filterMap.mpr ⟨p,hp,hw⟩,rfl⟩

/-- The new piece of work waits. -/
theorem waiting_now (h : Work m old new m') {snapshot : Snapshot}
    (hnew : new.bind waits=some snapshot) : numbered snapshot ∈ waiting waits m' := by
  obtain ⟨p,hp,hw⟩ := Option.bind_eq_some_iff.mp hnew
  exact ⟨snapshot,List.mem_filterMap.mpr ⟨p,h.now p hp,hw⟩,rfl⟩

/-- Work that waits for the same copy leaves the waiting copies as they are. -/
theorem waiting_same (h : Work m old new m') (he : old.bind waits=new.bind waits) :
    waiting waits m'=waiting waits m := by
  ext value
  constructor
  · intro hv
    rcases waiting_only h hv with hv|⟨snapshot,hnew,rfl⟩
    · exact hv
    · exact waiting_was h (he.trans hnew)
  · intro hv
    rcases waiting_kept h hv with ⟨snapshot,hold,rfl⟩|hv
    · exact waiting_now h (he.symm.trans hold)
    · exact hv

/-- A new copy is added to the waiting ones. -/
theorem waiting_add (h : Work m old new m') (hold : old.bind waits=none) {snapshot : Snapshot}
    (hnew : new.bind waits=some snapshot) :
    waiting waits m'=insert (numbered snapshot) (waiting waits m) := by
  ext value
  rw [Set.mem_insert_iff]
  constructor
  · intro hv
    rcases waiting_only h hv with hv|⟨other,ho,rfl⟩
    · exact Or.inr hv
    · rw [hnew] at ho
      cases ho
      exact Or.inl rfl
  · rintro (rfl|hv)
    · exact waiting_now h hnew
    · rcases waiting_kept h hv with ⟨other,ho,-⟩|hv
      · rw [hold] at ho
        cases ho
      · exact hv

end Waiting

section Channels

variable {waits : Pending → Option Snapshot} {m m' : Mesh} {old new : Option Pending}
  {taken : ℕ} {latest : AgentAnnouncement} {published : Option AgentAnnouncement}

/-- A new copy is the newest value of a channel. -/
theorem ordered_take (h : Ordered taken latest (waiting waits m) published)
    (hwork : Work m old new m') (hold : old.bind waits=none) {snapshot : Snapshot}
    (hnew : new.bind waits=some snapshot) (hticket : snapshot.ticket=taken) :
    Ordered (taken+1) snapshot.announcement (waiting waits m') published := by
  rw [waiting_add hwork hold hnew,numbered,hticket]
  exact h.take snapshot.announcement

/-- An oldest waiting copy is published on a channel. -/
theorem ordered_publish (h : Ordered taken latest (waiting waits m) published)
    (hwork : Work m old new m') {snapshot : Snapshot} (hold : old.bind waits=some snapshot)
    (hnew : new.bind waits=none)
    (horder : ((awaiting waits m).all fun other => snapshot.ticket≤other.ticket)=true) :
    Ordered taken latest (waiting waits m') (some snapshot.announcement) := by
  refine h.publish (waiting_was hwork hold) ?_ ?_ ?_
  · rintro _ ⟨other,ho,rfl⟩
    exact of_decide_eq_true (List.all_eq_true.mp horder other ho)
  · intro value hv
    rcases waiting_only hwork hv with hv|⟨other,ho,-⟩
    · exact hv
    · rw [hnew] at ho
      cases ho
  · intro value hv
    rcases waiting_kept hwork hv with ⟨other,ho,rfl⟩|hv
    · rw [hold] at ho
      cases ho
      exact Or.inl rfl
    · exact Or.inr hv

end Channels

/-- The payload of the local record. -/
def localPayload (config : ZeroConfConfig) (m : Mesh) : Option AgentAnnouncement :=
  m.shared.registry.inner[config.agentId]?.map AgentInfo.payload

/-- Both channels publish in order, and the newest copy is the local announcement
unless a call still has to refresh. -/
structure Published (config : ZeroConfConfig) (latest : AgentAnnouncement) (m : Mesh) : Prop where
  /-- The node keeps its identity. -/
  identity : LocalInvariant config m
  /-- Announcements. -/
  announces : Ordered m.shared.taken latest (waiting announceOf m) (lastAnnounced m.shared.wire)
  /-- Upserts. -/
  upserts : Ordered m.shared.taken latest (waiting copyOf m) (localPayload config m)
  /-- The newest copy. -/
  newest : m.shared.localAgent=latest ∨ Pending.refresh ∈ m.pendings

section Steps

variable {mac : Mac} {config : ZeroConfConfig} {m m' : Mesh} {action : Action}
  {latest : AgentAnnouncement}

/-- A refresh that is still to do stays to do, unless it is the work replaced. -/
theorem newest_kept (h : m.shared.localAgent=latest ∨ Pending.refresh ∈ m.pendings)
    {old new : Option Pending} (hwork : Work m old new m') (hold : old ≠ some .refresh)
    (hlocal : m'.shared.localAgent=m.shared.localAgent) :
    m'.shared.localAgent=latest ∨ Pending.refresh ∈ m'.pendings :=
  h.imp hlocal.trans fun hp => (hwork.kept _ hp).resolve_left hold

/-- A step that publishes nothing and makes no copy. -/
theorem Published.frame (h : Published config latest m) (hidentity : LocalInvariant config m')
    {old new : Option Pending} (hwork : Work m old new m') (hold : old=none)
    (hannounce : new.bind announceOf=none) (hcopy : new.bind copyOf=none)
    (htaken : m'.shared.taken=m.shared.taken) (hwire : m'.shared.wire=m.shared.wire)
    (hpayload : localPayload config m'=localPayload config m)
    (hnewest : m'.shared.localAgent=latest ∨ Pending.refresh ∈ m'.pendings) :
    Published config latest m' where
  identity := hidentity
  announces := by
    rw [waiting_same hwork (by rw [hold,hannounce]; rfl),htaken,hwire]
    exact h.announces
  upserts := by
    rw [waiting_same hwork (by rw [hold,hcopy]; rfl),htaken,hpayload]
    exact h.upserts
  newest := hnewest

/-- A step that makes a copy of the local announcement. -/
theorem Published.copy (h : Published config latest m) (hidentity : LocalInvariant config m')
    {old : Option Pending} {shared : Shared}
    (hwork : Work m old (some (.announce shared.snapshot)) m') (hold : old.bind copyOf=none)
    (hshared : m'.shared=shared.copied) (htaken : shared.taken=m.shared.taken)
    (hwire : shared.wire=m.shared.wire) (hregistry : shared.registry=m.shared.registry) :
    Published config shared.localAgent m' where
  identity := hidentity
  announces := by
    have holdAnnounce : old.bind announceOf=none := by
      rcases old with _|(_|snapshot|snapshot)
      · rfl
      · rfl
      · cases hold
      · cases hold
    have ht := ordered_take h.announces hwork holdAnnounce rfl htaken
    rw [hshared,Shared.copied,htaken,hwire]
    exact ht
  upserts := by
    have ht := ordered_take h.upserts hwork hold rfl htaken
    have hpayload : localPayload config m'=localPayload config m := by
      rw [localPayload,localPayload,hshared,Shared.copied,hregistry]
    rw [hpayload,hshared,Shared.copied,htaken]
    exact ht
  newest := Or.inl (by rw [hshared]; rfl)

/-- The last announcement after one more. -/
theorem lastAnnounced_append (wire : List BroadcasterCall) (a : AgentAnnouncement) :
    lastAnnounced (wire ++ [.announce a])=some a := by
  rw [lastAnnounced,announcements,List.filterMap_append,List.filterMap_cons,List.filterMap_nil,
    List.getLast?_concat]

/-- Every ordered step of an advertising node keeps both channels in order. -/
theorem Published.step (hadvertise : config.advertiseLocal=true) (h : Published config latest m)
    (hg : OrderedStep m action) (hs : MeshRuntime.step mac m action=some m') :
    ∃ latest', Published config latest' m' := by
  obtain ⟨⟨hpublishing,hfails⟩,horder⟩ := hg
  rw [inOrder,Bool.and_eq_true] at horder
  have hidentity := h.identity.step hs
  cases step_effect hs with
  | quiet shared work =>
    refine ⟨latest,h.frame hidentity work rfl rfl rfl (by rw [shared]) (by rw [shared])
      (by rw [localPayload,shared]; rfl) (newest_kept h.newest work nofun ?_)⟩
    rw [shared]
  | abandon snapshot error source shared work =>
    rw [source] at hfails
    cases hfails
  | skip discovery shared work =>
    rw [h.identity.unchanged,hadvertise] at discovery
    cases discovery
  | mutate i call source hcall succeeds shared work =>
    exact ⟨latest,h.frame hidentity work rfl rfl rfl (by rw [shared]; rfl) (by rw [shared]; rfl)
      (by rw [localPayload,shared]; rfl) (Or.inr (work.now _ rfl))⟩
  | clone tick waiting shared work =>
    exact ⟨m.shared.localAgent,h.copy hidentity work rfl shared rfl rfl rfl⟩
  | refresh advertises shared work =>
    obtain ⟨hregistry,hwire,htaken⟩ := sign_frame mac m.shared m.config.sharedSecretAuth
    exact ⟨_,h.copy hidentity work rfl shared htaken hwire hregistry⟩
  | announce snapshot source shared next hnext work =>
    obtain rfl : next=some (.upsert snapshot) := by
      rcases hnext with hnext|⟨-,hfail⟩
      · exact hnext
      · rw [hfails] at hfail
        cases hfail
    refine ⟨latest,hidentity,?_,?_,newest_kept h.newest work nofun (by rw [shared]; rfl)⟩
    · rw [shared,Shared.announce,lastAnnounced_append]
      refine ordered_publish h.announces work rfl rfl ?_
      rw [source] at horder
      exact horder.1
    · rw [waiting_same work rfl,localPayload,shared]
      exact h.upserts
  | upsert snapshot now source shared work =>
    refine ⟨latest,hidentity,?_,?_,newest_kept h.newest work nofun (by rw [shared]; rfl)⟩
    · rw [waiting_same work rfl,shared]
      exact h.announces
    · have hlocal := h.identity.copies _ (work.was _ rfl) _ rfl
      have hsame := upsertWithOriginAt_same m.shared.registry snapshot.announcement now .localOrigin
      have hpayload : localPayload config m'=some snapshot.announcement := by
        rw [localPayload,shared]
        rw [hlocal.1] at hsame
        exact congrArg (Option.map AgentInfo.payload) hsame
      rw [hpayload,shared]
      refine ordered_publish h.upserts work rfl rfl ?_
      rw [source] at horder
      exact horder.2
  | browse event task shared work =>
    obtain ⟨-,hsame,-⟩ := handle_local mac (Listener.ofConfig m.config)
      h.identity.keyed (by rw [h.identity.unchanged]; exact h.identity.entry) event
    rw [h.identity.unchanged] at hsame shared
    refine ⟨latest,h.frame hidentity work rfl rfl rfl (by rw [shared]) (by rw [shared]) ?_
      (newest_kept h.newest work nofun (by rw [shared]))⟩
    rw [localPayload,shared]
    exact congrArg (Option.map AgentInfo.payload) hsame
  | sweep order now task shared work =>
    rw [task] at hpublishing
    cases hpublishing
  | withdraw announcement source shared work =>
    rw [source] at hpublishing
    cases hpublishing
  | remove announcement source shared work =>
    rw [source] at hpublishing
    cases hpublishing

/-- A single piece of pending work is the only one that waits. -/
theorem waiting_singleton {waits : Pending → Option Snapshot} {p : Pending} {snapshot : Snapshot}
    (h : m.pendings=[p]) (hp : waits p=some snapshot) : waiting waits m={numbered snapshot} := by
  have hawaiting : awaiting waits m=[snapshot] := by
    rw [awaiting,h,List.filterMap_cons_some hp,List.filterMap_nil]
  ext value
  rw [Set.mem_singleton_iff]
  constructor
  · rintro ⟨other,ho,rfl⟩
    rw [hawaiting] at ho
    rw [List.mem_singleton.mp ho]
  · rintro rfl
    exact ⟨snapshot,hawaiting ▸ List.mem_singleton_self snapshot,rfl⟩

/-- An advertising node starts with its first copy waiting on both channels. -/
theorem Published.init (hvalid : Validated config) (hadvertise : config.advertiseLocal=true)
    (h : Mesh.init mac config=.ok m) : Published config m.shared.localAgent m := by
  have hpendings := init_pendings h
  rw [hadvertise,if_pos rfl] at hpendings
  have htaken : m.shared.taken=1 := by
    obtain ⟨a,-,rfl⟩ := init_ok h
    exact congrArg Nat.succ (sign_frame mac (unsigned config a) config.sharedSecretAuth).2.2
  refine ⟨LocalInvariant.init hvalid h,?_,?_,Or.inl rfl⟩
  · rw [htaken,waiting_singleton hpendings rfl]
    exact Ordered.start _ _
  · rw [htaken,waiting_singleton hpendings rfl]
    exact Ordered.start _ _

/-- Both channels are in order after every ordered run. -/
theorem Published.run (hvalid : Validated config) (hadvertise : config.advertiseLocal=true)
    {m₀ : Mesh} (h₀ : Mesh.init mac config=.ok m₀) {actions : List Action}
    (hg : Guarded (MeshRuntime.step mac) OrderedStep m₀ actions)
    (hrun : exec (MeshRuntime.step mac) m₀ actions=some m) : ∃ latest, Published config latest m :=
  invariant_of_guarded (fun m => ∃ latest, Published config latest m)
    (fun _ _ _ ⟨_,h⟩ hg hs => h.step hadvertise hg hs) hg hrun
    ⟨_,Published.init hvalid hadvertise h₀⟩

end Steps

/-- The mutator of a call has succeeded and no announcement of it has failed. -/
def applied : CallPhase → Bool
  | .mutate => false
  | .returned (.error _) => false
  | _ => true

/-- The local announcement is the configured one after all write sections, and the
mutator of every call that returned without an error is among them. -/
structure Recorded (mac : Mac) (a : AgentAnnouncement) (m : Mesh) : Prop where
  /-- Write sections make up the local announcement. -/
  localAgent : m.shared.localAgent=applyAll mac a m.shared.sections
  /-- Calls past their mutator left it in the record. -/
  calls : ∀ call ∈ m.calls, applied call.phase=true →
    Mutator.update call.update ∈ m.shared.sections

section Sections

variable {mac : Mac} {a : AgentAnnouncement} {m m' : Mesh}

/-- A write section extends the record. -/
theorem write_localAgent {s : Shared} (h : s.localAgent=applyAll mac a s.sections)
    (mutator : Mutator) :
    (s.write mac mutator).localAgent=applyAll mac a (s.write mac mutator).sections := by
  rw [applyAll] at h
  simp only [Shared.write,applyAll,List.foldl_append,List.foldl_cons,List.foldl_nil,←h]

/-- The signing section extends the record. -/
theorem sign_localAgent {s : Shared} (h : s.localAgent=applyAll mac a s.sections)
    (auth : Option SharedSecretAuth) :
    (s.sign mac auth).localAgent=applyAll mac a (s.sign mac auth).sections ∧
      ∀ mutator ∈ s.sections, mutator ∈ (s.sign mac auth).sections := by
  cases auth with
  | none => exact ⟨h,fun _ hm => hm⟩
  | some auth => exact ⟨write_localAgent h _,fun _ hm => List.mem_append_left _ hm⟩

/-- A call moves to a phase that is past its mutator only when it was so before, or
its mutator has just been recorded. -/
theorem Recorded.setPhase (h : Recorded mac a m) {i : ℕ} {call : Call} {phase : CallPhase}
    (shared : Shared) (hcall : m.calls[i]?=some call)
    (hlocal : shared.localAgent=applyAll mac a shared.sections)
    (hsections : ∀ mutator ∈ m.shared.sections, mutator ∈ shared.sections)
    (hphase : applied phase=true → applied call.phase=true ∨
      Mutator.update call.update ∈ shared.sections) :
    Recorded mac a { m.setPhase i call phase with shared } where
  localAgent := hlocal
  calls := fun other ho hp => by
    rcases List.mem_or_eq_of_mem_set ho with ho|rfl
    · exact hsections _ (h.calls other ho hp)
    · rcases hphase hp with hold|hnow
      · exact hsections _ (h.calls call (List.mem_of_getElem? hcall) hold)
      · exact hnow

/-- Steps of update calls keep the record. -/
theorem Recorded.callStep (h : Recorded mac a m) {action : CallAction}
    (hs : m.callStep mac action=some m') : Recorded mac a m' := by
  rcases callStep_cases hs with ⟨update,-,rfl⟩|⟨i,call,phase,shared,hcall,hmove,rfl⟩
  · refine ⟨h.localAgent,fun call hcall hp => ?_⟩
    rcases List.mem_append.mp hcall with hcall|hcall
    · exact h.calls call hcall hp
    · cases List.mem_singleton.mp hcall
      cases hp
  · cases hmove with
    | mutate hphase succeeds =>
      exact h.setPhase _ hcall (write_localAgent h.localAgent _)
        (fun _ hm => List.mem_append_left _ hm)
        fun _ => Or.inr (List.mem_append_right _ (List.mem_singleton_self _))
    | reject hphase error => exact h.setPhase _ hcall h.localAgent (fun _ hm => hm) nofun
    | refresh hphase advertises =>
      have hold : applied call.phase=true := by rw [hphase]; rfl
      obtain ⟨hlocal,hsections⟩ := sign_localAgent h.localAgent m.config.sharedSecretAuth
      exact h.setPhase _ hcall hlocal hsections fun _ => Or.inl hold
    | skip hphase discovery =>
      have hold : applied call.phase=true := by rw [hphase]; rfl
      exact h.setPhase _ hcall h.localAgent (fun _ hm => hm) fun _ => Or.inl hold
    | announce snapshot hphase =>
      have hold : applied call.phase=true := by rw [hphase]; rfl
      exact h.setPhase _ hcall h.localAgent (fun _ hm => hm) fun _ => Or.inl hold
    | announceFailed snapshot hphase error =>
      exact h.setPhase _ hcall h.localAgent (fun _ hm => hm) nofun
    | upsert snapshot now hphase =>
      have hold : applied call.phase=true := by rw [hphase]; rfl
      exact h.setPhase _ hcall h.localAgent (fun _ hm => hm) fun _ => Or.inl hold

/-- Every step keeps the record. -/
theorem Recorded.step (h : Recorded mac a m) {action : Action}
    (hs : MeshRuntime.step mac m action=some m') : Recorded mac a m' := by
  by_cases hparty : party action=.call
  · cases action with
    | call action => exact h.callStep hs
    | start action | tick action | task action | shutdown action => cases hparty
  · obtain ⟨hcalls,hlocal,hsections⟩ := (step_frame hs).calls hparty
    refine ⟨by rw [hlocal,hsections,h.localAgent],?_⟩
    rw [hcalls,hsections]
    exact h.calls

/-- Start-up begins with the record of its own signature. -/
theorem Recorded.init {config : ZeroConfConfig} (h : Mesh.init mac config=.ok m) :
    ∃ a, config.localAnnouncement=.ok a ∧ Recorded mac a m := by
  obtain ⟨a,ha,rfl⟩ := init_ok h
  refine ⟨a,ha,?_,fun _ hcall => absurd hcall List.not_mem_nil⟩
  exact (sign_localAgent (s:=unsigned config a) rfl config.sharedSecretAuth).1

/-- The record holds after every run. -/
theorem Recorded.run {config : ZeroConfConfig} {m₀ : Mesh} (h₀ : Mesh.init mac config=.ok m₀)
    {actions : List Action} (hrun : exec (MeshRuntime.step mac) m₀ actions=some m) :
    ∃ a, config.localAnnouncement=.ok a ∧ Recorded mac a m := by
  obtain ⟨a,ha,hstart⟩ := Recorded.init h₀
  exact ⟨a,ha,invariant_of_exec (Recorded mac a) (fun _ _ _ h hs => h.step hs) hrun hstart⟩

end Sections

/-- In every run of start-up, update calls, heartbeat ticks and browse events in
which announcements succeed and every publication is that of an oldest waiting
copy: whenever no call and no tick is in progress, the last announcement and the
local record carry the local announcement, which is the configured one after all
write sections, those of the completed updates among them. -/
theorem no_update_lost (mac : Mac) (config : ZeroConfConfig) (hvalid : Validated config)
    (hadvertise : config.advertiseLocal=true) {m₀ m : Mesh} (h₀ : Mesh.init mac config=.ok m₀)
    (actions : List Action) (hg : Guarded (step mac) OrderedStep m₀ actions)
    (hrun : exec (step mac) m₀ actions=some m) (hquiet : m.Quiescent) :
    lastAnnounced m.shared.wire=some m.shared.localAgent ∧
    localPayload config m=some m.shared.localAgent ∧
    ∃ a, config.localAnnouncement=.ok a ∧ m.shared.localAgent=applyAll mac a m.shared.sections ∧
      ∀ call ∈ m.calls, call.phase=.returned (.ok ()) →
        Mutator.update call.update ∈ m.shared.sections := by
  obtain ⟨latest,h⟩ := Published.run hvalid hadvertise h₀ hg hrun
  obtain ⟨a,ha,hrecorded⟩ := Recorded.run h₀ hrun
  have hempty : ∀ waits, waiting waits m=∅ := by
    intro waits
    rw [Set.eq_empty_iff_forall_notMem]
    rintro _ ⟨snapshot,hs,rfl⟩
    rw [awaiting,hquiet.pendings] at hs
    exact absurd hs List.not_mem_nil
  have hnewest : m.shared.localAgent=latest := by
    refine h.newest.resolve_right ?_
    rw [hquiet.pendings]
    exact List.not_mem_nil
  rw [hnewest]
  refine ⟨h.announces.settled (hempty _),h.upserts.settled (hempty _),a,ha,?_,?_⟩
  · rw [←hnewest]
    exact hrecorded.localAgent
  · intro call hcall hphase
    exact hrecorded.calls call hcall (by rw [hphase]; rfl)

/-- Two overlapping updates and a tick that publish in the order of their copies. -/
def orderlyUpdates : List Action :=
  startUp ++ [.call (.begin (.status .busy)),.call (.begin (.project "beta")),.call (.mutate 0),
    .call (.mutate 1),.call (.refresh 0),.call (.refresh 1),.tick .clone,
    .call (.announce 0 (.ok ())),.call (.announce 1 (.ok ())),.call (.upsert 0 1),
    .tick (.announce (.ok ())),.call (.upsert 1 2),.tick (.upsert 3)]

/-- The small node after the overlapping updates. -/
def orderlyNode : Mesh :=
  (exec (step Mac.recorded) sampleNode orderlyUpdates).get (by decide +kernel)

/-- The overlapping updates are both published. -/
theorem no_update_lost_orderly :
    lastAnnounced orderlyNode.shared.wire=some orderlyNode.shared.localAgent ∧
    localPayload sampleConfig orderlyNode=some orderlyNode.shared.localAgent ∧
    ∃ a, sampleConfig.localAnnouncement=.ok a ∧
      orderlyNode.shared.localAgent=applyAll Mac.recorded a orderlyNode.shared.sections ∧
      ∀ call ∈ orderlyNode.calls, call.phase=.returned (.ok ()) →
        Mutator.update call.update ∈ orderlyNode.shared.sections :=
  no_update_lost Mac.recorded sampleConfig sampleConfig_validated rfl (Mesh.init_initial _)
    orderlyUpdates (by decide +kernel) (Option.some_get _).symm (by decide +kernel)

/-- A tick copies the announcement, an update runs from start to end, and only
then the tick publishes its stale copy. -/
def staleTick : List Action :=
  startUp ++ [.call (.begin (.status .busy)),.tick .clone,.call (.mutate 0),.call (.refresh 0),
    .call (.announce 0 (.ok ())),.call (.upsert 0 1),.tick (.announce (.ok ())),.tick (.upsert 2)]

/-- The small node after the stale tick. -/
def overtakenNode : Mesh :=
  (exec (step Mac.recorded) sampleNode staleTick).get (by decide +kernel)

/-- A stale tick undoes a completed update in the last announcement and in the
local record. -/
theorem stale_tick_undoes_update :
    Validated sampleConfig ∧ sampleConfig.advertiseLocal=true ∧
    Mesh.init Mac.recorded sampleConfig=.ok sampleNode ∧
    Guarded (step Mac.recorded) Accepting sampleNode staleTick ∧
    exec (step Mac.recorded) sampleNode staleTick=some overtakenNode ∧ overtakenNode.Quiescent ∧
    overtakenNode.calls=[{ update := .status .busy, phase := .returned (.ok ()) }] ∧
    overtakenNode.shared.localAgent.status=.busy ∧
    (lastAnnounced overtakenNode.shared.wire).map AgentAnnouncement.status=some .idle ∧
    (localPayload sampleConfig overtakenNode).map AgentAnnouncement.status=some .idle := by
  refine ⟨sampleConfig_validated,rfl,Mesh.init_initial _,?_,(Option.some_get _).symm,?_,?_,?_,?_,?_⟩
  all_goals decide +kernel

end MeshPresence.LocalPublication
