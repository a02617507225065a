import MeshPresence.LocalEntry

/-!
# What mutators keep, every published copy has

The local announcement changes in write sections only, each with one mutator, and what is
published are copies of it. A property that the first announcement has and that every
mutator keeps is therefore one of the local announcement, of the copies that wait and of
everything that was handed to the broadcaster, in every state of a node.
-/

namespace MeshPresence.CopyInvariants

open OrderedPublication AgentTypes AgentConfig AgentWire AgentRegistry
open AnnouncementInvariant
open MeshRuntime MeshEffects LocalEntry

/-- A property of the local announcement, of its copies and of all announcements. -/
structure Everywhere (P : AgentAnnouncement → Prop) (m : Mesh) : Prop where
  /-- The local announcement. -/
  localAgent : P m.shared.localAgent
  /-- Copies that wait. -/
  copies : ∀ p ∈ m.pendings, ∀ snapshot, copyOf p=some snapshot → P snapshot.announcement
  /-- Announcements handed to the broadcaster. -/
  announced : ∀ a, BroadcasterCall.announce a ∈ m.shared.wire → P a

variable {P : AgentAnnouncement → Prop} {mac : Mac} {m m' : Mesh} {action : Action}
  {old new : Option Pending}

/-- Signing when configured keeps what mutators keep. -/
theorem sign_keeps (hP : ∀ a mutator, P a → P (Mutator.apply mac a mutator)) {s : Shared}
    (h : P s.localAgent) (auth : Option SharedSecretAuth) : P (s.sign mac auth).localAgent := by
  cases auth with
  | none => exact h
  | some auth => exact hP s.localAgent (.applySharedSecretAuth auth) h

/-- Preservation, given the new local announcement, the new copy and the new call of the
broadcaster. -/
theorem Everywhere.preserve (h : Everywhere P m) (hlocal : P m'.shared.localAgent)
    (hwork : Work m old new m')
    (hcopy : ∀ p, new=some p → ∀ snapshot, copyOf p=some snapshot → P snapshot.announcement)
    (hwire : ∀ a, BroadcasterCall.announce a ∈ m'.shared.wire →
      BroadcasterCall.announce a ∈ m.shared.wire ∨ P a) : Everywhere P m' where
  localAgent := hlocal
  copies := fun p hp snapshot hs =>
    (hwork.only p hp).elim (fun hp => h.copies p hp snapshot hs) fun hp => hcopy p hp snapshot hs
  announced := fun a ha => (hwire a ha).elim (h.announced a) id

/-- Preservation by a step that makes no copy and leaves announcement and wire alone. -/
theorem Everywhere.frame (h : Everywhere P m) (hwork : Work m old none m')
    (hlocal : m'.shared.localAgent=m.shared.localAgent) (hwire : m'.shared.wire=m.shared.wire) :
    Everywhere P m' := by
  refine h.preserve (hlocal ▸ h.localAgent) hwork (fun p hp => ?_) fun a ha => Or.inl (hwire ▸ ha)
  cases hp

/-- Preservation by a withdrawal of the service. -/
theorem Everywhere.withdraw (h : Everywhere P m) (hwork : Work m old none m')
    {announcement : AgentAnnouncement} (hshared : m'.shared=m.shared.unregister announcement) :
    Everywhere P m' := by
  refine h.preserve (hshared ▸ h.localAgent) hwork (fun p hp => ?_) fun a ha => Or.inl ?_
  · cases hp
  · rw [hshared] at ha
    rcases List.mem_append.mp ha with ha|ha
    · exact ha
    · cases List.mem_singleton.mp ha

/-- Every step of a node keeps the property everywhere. -/
theorem Everywhere.step (hP : ∀ a mutator, P a → P (Mutator.apply mac a mutator))
    (h : Everywhere P m) (hs : MeshRuntime.step mac m action=some m') : Everywhere P m' := by
  cases step_effect hs with
  | quiet shared work => exact h.frame work (by rw [shared]) (by rw [shared])
  | abandon snapshot error source shared work => exact h.withdraw work shared
  | skip discovery shared work => exact h.frame work (by rw [shared]) (by rw [shared])
  | mutate i call source hcall succeeds shared work =>
    refine h.preserve ?_ work (fun p hp snapshot hs => ?_) fun a ha => Or.inl ?_
    · rw [shared]
      exact hP _ (.update call.update) h.localAgent
    · cases hp
      cases hs
    · rw [shared] at ha
      exact ha
  | clone tick waiting shared work =>
    refine h.preserve (shared ▸ h.localAgent) work (fun p hp snapshot hs => ?_) fun a ha => Or.inl ?_
    · cases hp
      cases hs
      exact h.localAgent
    · rw [shared] at ha
      exact ha
  | refresh advertises shared work =>
    have hsigned := sign_keeps hP h.localAgent m.config.sharedSecretAuth
    refine h.preserve (shared ▸ hsigned) work (fun p hp snapshot hs => ?_) fun a ha => Or.inl ?_
    · cases hp
      cases hs
      exact hsigned
    · rw [shared,Shared.copied,(sign_frame mac m.shared m.config.sharedSecretAuth).2.1] at ha
      exact ha
  | announce snapshot source shared next hnext work =>
    have hcopy := h.copies _ (work.was _ rfl) snapshot rfl
    refine h.preserve (shared ▸ h.localAgent) work (fun p hp copy hc => ?_) fun a ha => ?_
    · rcases hnext with rfl|⟨rfl,-⟩
      · cases hp
        cases hc
        exact hcopy
      · cases hp
    · rw [shared] at ha
      rcases List.mem_append.mp ha with ha|ha
      · exact Or.inl ha
      · cases List.mem_singleton.mp ha
        exact Or.inr hcopy
  | upsert snapshot now source shared work =>
    exact h.frame work (by rw [shared]; rfl) (by rw [shared]; rfl)
  | browse event task shared work => exact h.frame work (by rw [shared]) (by rw [shared])
  | sweep order now task shared work => exact h.frame work (by rw [shared]) (by rw [shared])
  | withdraw announcement source shared work => exact h.withdraw work shared
  | remove announcement source shared work => exact h.frame work (by rw [shared]) (by rw [shared])

/-- A node starts with the property everywhere. -/
theorem Everywhere.init (hP : ∀ a mutator, P a → P (Mutator.apply mac a mutator))
    {config : ZeroConfConfig} (h : ∀ a, config.localAnnouncement=.ok a → P a)
    (hinit : Mesh.init mac config=.ok m) : Everywhere P m := by
  have hpendings := init_pendings hinit
  obtain ⟨a,ha,rfl⟩ := init_ok hinit
  have hsigned : P ((unsigned config a).sign mac config.sharedSecretAuth).localAgent :=
    sign_keeps hP (s := unsigned config a) (h a ha) config.sharedSecretAuth
  refine ⟨hsigned,fun p hp snapshot hs => ?_,fun b hb => ?_⟩
  · rw [hpendings] at hp
    split at hp
    · cases List.mem_singleton.mp hp
      cases hs
      exact hsigned
    · exact absurd hp List.not_mem_nil
  · have hwire := (sign_frame mac (unsigned config a) config.sharedSecretAuth).2.1
    rw [Shared.copied,hwire] at hb
    exact absurd hb List.not_mem_nil

/-- What a step announces is one of the waiting copies. -/
theorem announced_pending {snapshot : Snapshot} (h : announced m action=some snapshot) :
    Pending.announce snapshot ∈ m.pendings := by
  rw [mem_pendings]
  unfold announced at h
  split at h
  · split at h
    · next hstart =>
      cases h
      exact Or.inl (congrArg StartPhase.pending hstart)
    · cases h
  · split at h
    · next hcall =>
      cases h
      obtain ⟨call,hcall,hphase⟩ := Option.map_eq_some_iff.mp hcall
      exact Or.inr (Or.inr (work_mem hcall (congrArg CallPhase.pending hphase)))
    · cases h
  · split at h
    · next htick =>
      cases h
      exact Or.inr (Or.inl (congrArg TickPhase.pending htick))
    · cases h
  · cases h

end MeshPresence.CopyInvariants
