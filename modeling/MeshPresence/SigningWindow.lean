import MeshPresence.LocalEntry
import MeshPresence.SignatureVerification

/-!
# Signing and the window between mutation and signature

A mutator and the signature over its result are two write sections, and a
heartbeat tick may copy the local announcement between them. When every tick
copies after a signing section, every announcement handed to the broadcaster
verifies under the settings of the node itself.
-/

namespace MeshPresence.SigningWindow

open GuardedRuns AgentTypes AgentConfig AgentWire AgentRegistry AnnouncementInvariant
open SignatureVerification MeshRuntime MeshEffects LocalEntry

/-- The write section signs. -/
def isSigning : Mutator → Bool
  | .update _ => false
  | .applySharedSecretAuth _ => true

/-- The last write section on the local announcement signed it. -/
def signedLast (s : Shared) : Bool := s.sections.getLast?.any isSigning

/-- A tick copies only what was signed last; every other step is free. -/
def outsideWindow (m : Mesh) : Action → Bool
  | .tick .clone => signedLast m.shared
  | _ => true

/-- The guard of a run whose ticks avoid the window. -/
def OutsideWindow (m : Mesh) (action : Action) : Prop := outsideWindow m action=true

instance (m : Mesh) (action : Action) : Decidable (OutsideWindow m action) :=
  inferInstanceAs (Decidable (_=true))

/-- The announcement verifies under the settings. -/
def Verifies (mac : Mac) (auth : SharedSecretAuth) (a : AgentAnnouncement) : Prop :=
  verifySharedSecretAuth mac a auth=.ok ()

/-- Everything that a node has published or may still publish verifies. -/
structure Signed (mac : Mac) (auth : SharedSecretAuth) (m : Mesh) : Prop where
  /-- The node signs with the settings. -/
  configured : m.config.sharedSecretAuth=some auth
  /-- What was signed last verifies. -/
  fresh : signedLast m.shared=true → Verifies mac auth m.shared.localAgent
  /-- Copies verify. -/
  copies : ∀ p ∈ m.pendings, ∀ snapshot, copyOf p=some snapshot →
    Verifies mac auth snapshot.announcement
  /-- Announcements verify. -/
  announced : ∀ a, BroadcasterCall.announce a ∈ m.shared.wire → Verifies mac auth a

section Steps

variable {mac : Mac} {auth : SharedSecretAuth} {m m' : Mesh} {action : Action}
  {old new : Option Pending}

/-- A signing section leaves a verifying announcement. -/
theorem sign_verifies (mac : Mac) (s : Shared) (auth : SharedSecretAuth) :
    Verifies mac auth (s.sign mac (some auth)).localAgent :=
  verify_applySharedSecretAuth mac s.localAgent auth

/-- A withdrawal adds no announcement. -/
theorem announce_mem_unregister {s : Shared} {announcement a : AgentAnnouncement}
    (h : BroadcasterCall.announce a ∈ (s.unregister announcement).wire) :
    BroadcasterCall.announce a ∈ s.wire := by
  rcases List.mem_append.mp h with h|h
  · exact h
  · cases List.mem_singleton.mp h

/-- Preservation, given what happens to the local announcement, to the copies and
to the wire. -/
theorem Signed.preserve (h : Signed mac auth m) (hs : step mac m action=some m')
    (hfresh : signedLast m'.shared=true → Verifies mac auth m'.shared.localAgent)
    (hwork : Work m old new m')
    (hcopy : ∀ p, new=some p → ∀ snapshot, copyOf p=some snapshot →
      Verifies mac auth snapshot.announcement)
    (hwire : ∀ a, BroadcasterCall.announce a ∈ m'.shared.wire →
      BroadcasterCall.announce a ∈ m.shared.wire ∨ Verifies mac auth a) :
    Signed mac auth m' where
  configured := by rw [(step_frame hs).config,h.configured]
  fresh := hfresh
  copies := fun p hp snapshot hsnapshot =>
    (hwork.only p hp).elim (fun hp => h.copies p hp snapshot hsnapshot)
      fun hp => hcopy p hp snapshot hsnapshot
  announced := fun a ha => (hwire a ha).elim (h.announced a) id

/-- Preservation by a step that makes no copy and leaves announcement, record of
sections and wire alone. -/
theorem Signed.frame (h : Signed mac auth m) (hs : step mac m action=some m')
    (hwork : Work m old none m') (hlocal : m'.shared.localAgent=m.shared.localAgent)
    (hsections : m'.shared.sections=m.shared.sections) (hwire : m'.shared.wire=m.shared.wire) :
    Signed mac auth m' := by
  have hfresh : signedLast m'.shared=true → Verifies mac auth m'.shared.localAgent := by
    rw [signedLast,hsections,hlocal]
    exact h.fresh
  have hcopy : ∀ p, none=some p → ∀ snapshot, copyOf p=some snapshot →
      Verifies mac auth snapshot.announcement := by
    intro p hp
    cases hp
  refine h.preserve hs hfresh hwork hcopy fun a ha => Or.inl ?_
  rwa [hwire] at ha

/-- Preservation by a step that withdraws a service. -/
theorem Signed.withdraw (h : Signed mac auth m) (hs : step mac m action=some m')
    (hwork : Work m old none m') {announcement : AgentAnnouncement}
    (hshared : m'.shared=m.shared.unregister announcement) : Signed mac auth m' := by
  have hcopy : ∀ p, none=some p → ∀ snapshot, copyOf p=some snapshot →
      Verifies mac auth snapshot.announcement := by
    intro p hp
    cases hp
  refine h.preserve hs (hshared ▸ h.fresh) hwork hcopy fun a ha => Or.inl ?_
  rw [hshared] at ha
  exact announce_mem_unregister ha

/-- Every step outside the window keeps everything signed. -/
theorem Signed.step (h : Signed mac auth m) (hg : OutsideWindow m action)
    (hs : MeshRuntime.step mac m action=some m') : Signed mac auth m' := by
  cases step_effect hs with
  | quiet shared work => exact h.frame hs work (by rw [shared]) (by rw [shared]) (by rw [shared])
  | abandon snapshot error source shared work => exact h.withdraw hs work shared
  | skip discovery shared work =>
    exact h.frame hs work (by rw [shared]) (by rw [shared]) (by rw [shared])
  | mutate i call source hcall succeeds shared work =>
    have hstale : signedLast m'.shared=false := by
      rw [shared,signedLast,Shared.write,List.getLast?_concat]
      rfl
    have hcopy : ∀ p, some Pending.refresh=some p → ∀ snapshot, copyOf p=some snapshot →
        Verifies mac auth snapshot.announcement := by
      intro p hp snapshot hsnapshot
      cases hp
      cases hsnapshot
    have hwire : m'.shared.wire=m.shared.wire := by
      rw [shared]
      rfl
    exact h.preserve hs (fun hf => absurd (hstale.symm.trans hf) Bool.false_ne_true) work hcopy
      fun a ha => Or.inl (hwire ▸ ha)
  | clone tick waiting shared work =>
    rw [OutsideWindow,tick] at hg
    have hverifies : Verifies mac auth m.shared.localAgent := h.fresh hg
    have hwire : m'.shared.wire=m.shared.wire := by
      rw [shared]
      rfl
    refine h.preserve hs (shared ▸ h.fresh) work (fun p hp snapshot hsnapshot => ?_)
      fun a ha => Or.inl (hwire ▸ ha)
    cases hp
    cases hsnapshot
    exact hverifies
  | refresh advertises shared work =>
    rw [h.configured] at shared work
    have hverifies := sign_verifies mac m.shared auth
    have hwire : m'.shared.wire=m.shared.wire := by
      rw [shared]
      rfl
    refine h.preserve hs (fun _ => ?_) work (fun p hp snapshot hsnapshot => ?_)
      fun a ha => Or.inl (hwire ▸ ha)
    · rw [shared]
      exact hverifies
    · cases hp
      cases hsnapshot
      exact hverifies
  | announce snapshot source shared next hnext work =>
    have hverifies := h.copies _ (work.was _ rfl) snapshot rfl
    have hcopy : ∀ p, next=some p → ∀ copy, copyOf p=some copy →
        Verifies mac auth copy.announcement := by
      intro p hp copy hcopy
      rcases hnext with rfl|⟨rfl,-⟩
      · cases hp
        cases hcopy
        exact hverifies
      · cases hp
    refine h.preserve hs (shared ▸ h.fresh) work hcopy fun a ha => ?_
    rw [shared] at ha
    rcases List.mem_append.mp ha with ha|ha
    · exact Or.inl ha
    · cases List.mem_singleton.mp ha
      exact Or.inr hverifies
  | upsert snapshot now source shared work =>
    exact h.frame hs work (by rw [shared]; rfl) (by rw [shared]; rfl) (by rw [shared]; rfl)
  | browse event task shared work =>
    exact h.frame hs work (by rw [shared]) (by rw [shared]) (by rw [shared])
  | sweep order now task shared work =>
    exact h.frame hs work (by rw [shared]) (by rw [shared]) (by rw [shared])
  | withdraw announcement source shared work => exact h.withdraw hs work shared
  | remove announcement source shared work =>
    exact h.frame hs work (by rw [shared]) (by rw [shared]) (by rw [shared])

end Steps

/-- A signing node starts with its announcement signed. -/
theorem Signed.init {mac : Mac} {config : ZeroConfConfig} {auth : SharedSecretAuth}
    (hauth : config.sharedSecretAuth=some auth) {m : Mesh} (h : Mesh.init mac config=.ok m) :
    Signed mac auth m := by
  have hpendings := init_pendings h
  obtain ⟨a,-,rfl⟩ := init_ok h
  have hverifies : Verifies mac auth
      ((unsigned config a).sign mac config.sharedSecretAuth).copied.localAgent := by
    rw [hauth]
    exact sign_verifies mac (unsigned config a) auth
  have hwire : ((unsigned config a).sign mac config.sharedSecretAuth).copied.wire=[] :=
    (sign_frame mac (unsigned config a) config.sharedSecretAuth).2.1
  refine ⟨hauth,fun _ => hverifies,fun p hp snapshot hs => ?_,fun b hb => ?_⟩
  · rw [hpendings] at hp
    split at hp
    · cases List.mem_singleton.mp hp
      cases hs
      exact hverifies
    · exact absurd hp List.not_mem_nil
  · rw [hwire] at hb
    exact absurd hb List.not_mem_nil

/-- In every run of a signing node, in any interleaving of start-up, update calls,
ticks, tasks and shutdown, in which ticks copy the local announcement only after a
signing section: every announcement handed to the broadcaster verifies under the
settings of the node. -/
theorem every_announcement_verifies (mac : Mac) (config : ZeroConfConfig)
    (auth : SharedSecretAuth) (hauth : config.sharedSecretAuth=some auth) {m₀ m : Mesh}
    (h₀ : Mesh.init mac config=.ok m₀) (actions : List Action)
    (hg : Guarded (step mac) OutsideWindow m₀ actions)
    (hrun : exec (step mac) m₀ actions=some m) :
    ∀ a, BroadcasterCall.announce a ∈ m.shared.wire → verifySharedSecretAuth mac a auth=.ok () :=
  (invariant_of_guarded (Signed mac auth) (fun _ _ _ h hg hs => h.step hg hs) hg hrun
    (Signed.init hauth h₀)).announced

/-- An update whose tick copies the announcement after it was signed again. -/
def signedTick : List Action :=
  startUp ++ [.call (.begin (.status .busy)),.call (.mutate 0),.call (.refresh 0),
    .call (.announce 0 (.ok ())),.tick .clone,.tick (.announce (.ok ())),.call (.upsert 0 1),
    .tick (.upsert 2)]

/-- The signing node after the signed tick. -/
def signedNode : Mesh := (exec (step Mac.recorded) signingNode signedTick).get (by decide +kernel)

/-- All three announcements verify. -/
theorem signed_tick_verifies : signedNode.shared.wire.length=3 ∧
    ∀ a, BroadcasterCall.announce a ∈ signedNode.shared.wire →
      verifySharedSecretAuth Mac.recorded a sampleAuth=.ok () :=
  ⟨by decide +kernel,
    every_announcement_verifies Mac.recorded (withSharedSecretAuth sampleConfig sampleAuth)
      sampleAuth rfl (Mesh.init_initial _) signedTick (by decide +kernel) (Option.some_get _).symm⟩

/-- A tick copies the announcement between the mutator of an update and the new
signature, and publishes the copy. -/
def windowTick : List Action :=
  startUp ++ [.call (.begin (.status .busy)),.call (.mutate 0),.tick .clone,
    .tick (.announce (.ok ()))]

/-- The signing node after the tick in the window. -/
def exposedNode : Mesh := (exec (step Mac.recorded) signingNode windowTick).get (by decide +kernel)

/-- The tick in the window publishes an announcement that does not verify. -/
theorem window_tick_fails_verification :
    SharedSecretAuth.new "mesh-secret" .signAndVerify=.ok sampleAuth ∧
    Validated (withSharedSecretAuth sampleConfig sampleAuth) ∧
    (withSharedSecretAuth sampleConfig sampleAuth).advertiseLocal=true ∧
    Mesh.init Mac.recorded (withSharedSecretAuth sampleConfig sampleAuth)=.ok signingNode ∧
    exec (step Mac.recorded) signingNode windowTick=some exposedNode ∧
    BroadcasterCall.announce exposedNode.shared.localAgent ∈ exposedNode.shared.wire ∧
    verifySharedSecretAuth Mac.recorded exposedNode.shared.localAgent sampleAuth=
      .error (.invalidSharedSecretSignature "agent-local") := by
  refine ⟨?_,.sharedSecretAuth sampleAuth sampleConfig_validated,rfl,Mesh.init_initial _,
    (Option.some_get _).symm,?_,?_⟩
  · decide +kernel
  · decide +kernel
  · decide +kernel

end MeshPresence.SigningWindow
