import MeshPresence.PeerProvenance
import MeshPresence.LocalPublication

/-!
# What a quiet node announced last

A node of a network announces copies of its local announcement. When every announcement is
that of an oldest waiting copy and the daemon accepts it, the node has registered its
current announcement whenever nothing is in progress, and when it has a shared secret this
announcement carries the tag of its own payload. Sweeps, browse events and the other nodes
play no part in it.
-/

namespace MeshPresence.CurrentAnnouncement

open GuardedRuns NodeFamilies OrderedPublication AgentTypes AgentConfig AgentWire
open SignatureVerification MeshRuntime MeshEffects LocalEntry LocalPublication
open ServiceTransport MeshNetwork PeerProvenance

/-- An announcement is that of an oldest waiting copy, and the daemon accepts it. -/
def announcesInOrder (m : Mesh) (action : Action) : Bool :=
  !fails action && (announced m action).all fun snapshot =>
    (awaiting announceOf m).all fun other => snapshot.ticket≤other.ticket

/-- An announcement carries the scheme and the tag of its own payload. -/
structure SelfSigned (mac : Mac) (auth : SharedSecretAuth) (a : AgentAnnouncement) : Prop where
  /-- The scheme. -/
  scheme : a.metadata[agentAuthSchemeMetadataKey]?=some sharedSecretScheme
  /-- The tag. -/
  signature : a.metadata[agentSignatureMetadataKey]?=
    some (mac.tag auth.signingSecret (signaturePayload a))

/-- Signing makes an announcement carry its tag. -/
theorem applySharedSecretAuth_selfSigned (mac : Mac) (a : AgentAnnouncement)
    (auth : SharedSecretAuth) : SelfSigned mac auth (applySharedSecretAuth mac a auth) where
  scheme := applySharedSecretAuth_scheme mac a auth
  signature := by
    rw [signaturePayload_applySharedSecretAuth]
    exact applySharedSecretAuth_signature mac a auth

/-- What is announced is in order, and the newest copy is the local announcement, signed when
configured, unless a call still has to refresh. -/
structure Announcing (mac : Mac) (latest : AgentAnnouncement) (m : Mesh) : Prop where
  /-- Announcements. -/
  announces : Ordered m.shared.taken latest (waiting announceOf m) (lastAnnounced m.shared.wire)
  /-- The newest copy. -/
  newest : m.shared.localAgent=latest ∨ Pending.refresh ∈ m.pendings
  /-- The signature. -/
  signed : ∀ auth, m.config.sharedSecretAuth=some auth →
    SelfSigned mac auth m.shared.localAgent ∨ Pending.refresh ∈ m.pendings

section Steps

variable {mac : Mac} {m m' : Mesh} {action : Action} {latest : AgentAnnouncement}
  {old new : Option Pending}

/-- No work is no refresh. -/
theorem none_ne_refresh : (none : Option Pending) ≠ some .refresh := nofun

/-- An announcement to make is no refresh. -/
theorem announce_ne_refresh (snapshot : Snapshot) : some (Pending.announce snapshot) ≠ some .refresh :=
  nofun

/-- An upsert to make is no refresh. -/
theorem upsert_ne_refresh (snapshot : Snapshot) : some (Pending.upsert snapshot) ≠ some .refresh :=
  nofun

/-- A withdrawal is no announcement. -/
theorem lastAnnounced_unregister (wire : List BroadcasterCall) (name : String) :
    lastAnnounced (wire ++ [.unregister name])=lastAnnounced wire := by
  rw [lastAnnounced,announcements,List.filterMap_append,List.filterMap_cons,List.filterMap_nil,
    List.append_nil]
  rfl

/-- A signature that is not due stays when the local announcement does. -/
theorem signed_kept (h : ∀ auth, m.config.sharedSecretAuth=some auth →
      SelfSigned mac auth m.shared.localAgent ∨ Pending.refresh ∈ m.pendings)
    (hs : MeshRuntime.step mac m action=some m') (hwork : Work m old new m')
    (hold : old ≠ some .refresh) (hlocal : m'.shared.localAgent=m.shared.localAgent) :
    ∀ auth, m'.config.sharedSecretAuth=some auth →
      SelfSigned mac auth m'.shared.localAgent ∨ Pending.refresh ∈ m'.pendings := by
  intro auth hauth
  rw [(step_frame hs).config] at hauth
  rw [hlocal]
  exact (h auth hauth).imp id fun hp => (hwork.kept _ hp).resolve_left hold

/-- A step that announces and copies nothing. -/
theorem Announcing.frame (h : Announcing mac latest m)
    (hs : MeshRuntime.step mac m action=some m') (hwork : Work m old new m')
    (hold : old ≠ some .refresh) (hsame : old.bind announceOf=new.bind announceOf)
    (hlocal : m'.shared.localAgent=m.shared.localAgent) (htaken : m'.shared.taken=m.shared.taken)
    (hwire : lastAnnounced m'.shared.wire=lastAnnounced m.shared.wire) :
    Announcing mac latest m' where
  announces := by
    rw [waiting_same hwork hsame,htaken,hwire]
    exact h.announces
  newest := newest_kept h.newest hwork hold hlocal
  signed := signed_kept h.signed hs hwork hold hlocal

/-- Every step of an advertising node that announces in order keeps what is announced in
order. -/
theorem Announcing.step (hadvertise : m.config.advertiseLocal=true) (h : Announcing mac latest m)
    (hg : announcesInOrder m action=true) (hs : MeshRuntime.step mac m action=some m') :
    ∃ latest', Announcing mac latest' m' := by
  rw [announcesInOrder,Bool.and_eq_true,Bool.not_eq_true'] at hg
  obtain ⟨hfails,horder⟩ := hg
  cases step_effect hs with
  | quiet shared work => exact ⟨latest,h.frame hs work none_ne_refresh rfl (by rw [shared]) (by rw [shared])
      (by rw [shared])⟩
  | abandon snapshot error source shared work =>
    rw [source] at hfails
    cases hfails
  | skip discovery shared work =>
    rw [hadvertise] at discovery
    cases discovery
  | mutate i call source hcall succeeds shared work =>
    refine ⟨latest,?_,Or.inr (work.now _ rfl),fun _ _ => Or.inr (work.now _ rfl)⟩
    rw [waiting_same work rfl,shared]
    exact h.announces
  | clone tick waiting shared work =>
    refine ⟨m.shared.localAgent,?_,Or.inl (by rw [shared,Shared.copied]),
      signed_kept h.signed hs work none_ne_refresh (by rw [shared,Shared.copied])⟩
    have ht := ordered_take h.announces work rfl rfl rfl
    rw [shared,Shared.copied]
    exact ht
  | refresh advertises shared work =>
    obtain ⟨-,hwire,htaken⟩ := sign_frame mac m.shared m.config.sharedSecretAuth
    refine ⟨_,?_,Or.inl (by rw [shared]),fun auth hauth => Or.inl ?_⟩
    · have ht := ordered_take h.announces work rfl rfl htaken
      rw [shared,Shared.copied,htaken,hwire]
      exact ht
    · rw [(step_frame hs).config] at hauth
      rw [shared,hauth]
      exact applySharedSecretAuth_selfSigned mac m.shared.localAgent auth
  | announce snapshot source shared next hnext work =>
    obtain rfl : next=some (.upsert snapshot) := by
      rcases hnext with hnext|⟨-,hfail⟩
      · exact hnext
      · rw [hfails] at hfail
        cases hfail
    refine ⟨latest,?_,newest_kept h.newest work (announce_ne_refresh _) (by rw [shared]; rfl),
      signed_kept h.signed hs work (announce_ne_refresh _) (by rw [shared]; rfl)⟩
    rw [source] at horder
    rw [shared,Shared.announce,lastAnnounced_append]
    exact ordered_publish h.announces work rfl rfl horder
  | upsert snapshot now source shared work =>
    exact ⟨latest,h.frame hs work (upsert_ne_refresh _) rfl (by rw [shared]; rfl) (by rw [shared]; rfl)
      (by rw [shared]; rfl)⟩
  | browse event task shared work =>
    exact ⟨latest,h.frame hs work none_ne_refresh rfl (by rw [shared]) (by rw [shared]) (by rw [shared])⟩
  | sweep order now task shared work =>
    exact ⟨latest,h.frame hs work none_ne_refresh rfl (by rw [shared]) (by rw [shared]) (by rw [shared])⟩
  | withdraw announcement source shared work =>
    refine ⟨latest,h.frame hs work none_ne_refresh rfl (by rw [shared]; rfl) (by rw [shared]; rfl) ?_⟩
    rw [shared]
    exact lastAnnounced_unregister _ _
  | remove announcement source shared work =>
    exact ⟨latest,h.frame hs work none_ne_refresh rfl (by rw [shared]) (by rw [shared]) (by rw [shared])⟩

/-- An advertising node starts with its first copy, signed when configured, waiting. -/
theorem Announcing.init {config : ZeroConfConfig} (hvalid : Validated config)
    (hadvertise : config.advertiseLocal=true) (h : Mesh.init mac config=.ok m) :
    Announcing mac m.shared.localAgent m := by
  have hpublished := Published.init hvalid hadvertise h
  refine ⟨hpublished.announces,Or.inl rfl,fun auth hauth => Or.inl ?_⟩
  rw [hpublished.identity.unchanged] at hauth
  obtain ⟨a,-,rfl⟩ := init_ok h
  rw [Shared.copied,hauth]
  exact applySharedSecretAuth_selfSigned mac a auth

/-- When nothing fails, the last announcement after a step was the last one before it, or the
step registers it. -/
theorem step_lastAnnounced (hfails : fails action=false)
    (hs : MeshRuntime.step mac m action=some m') {a : AgentAnnouncement}
    (ha : lastAnnounced m'.shared.wire=some a) : lastAnnounced m.shared.wire=some a ∨
      registration m action=some { config := m.config, announcement := a } := by
  have hsame : m'.shared.wire=m.shared.wire → lastAnnounced m.shared.wire=some a := fun he => by
    rw [←he]
    exact ha
  cases step_effect hs with
  | quiet shared | skip discovery shared | browse event task shared | sweep order now task shared
    | remove announcement source shared | mutate i call source hcall succeeds shared
    | clone tick waiting shared | upsert snapshot now source shared =>
    exact Or.inl (hsame (shared ▸ rfl))
  | refresh advertises shared =>
    exact Or.inl (hsame (by rw [shared]; exact (sign_frame mac m.shared _).2.1))
  | abandon snapshot error source shared | withdraw announcement source shared =>
    rw [shared] at ha
    exact Or.inl ((lastAnnounced_unregister _ _).symm.trans ha)
  | announce snapshot source shared =>
    rw [shared,Shared.announce,lastAnnounced_append] at ha
    cases ha
    refine Or.inr ?_
    rw [registration,hfails,source]
    rfl

end Steps

/-- A node announces in order, and its last announcement is registered. -/
def Current {ι : Type} (mac : Mac) (net : Network ι) (m : Mesh) : Prop :=
  m.config.advertiseLocal=true → (∃ latest, Announcing mac latest m) ∧
    ∀ a, lastAnnounced m.shared.wire=some a →
      { config := m.config, announcement := a : Registration } ∈ net.registered

section Networks

variable {ι : Type} {mac : Mac} {net net' : Network ι}

/-- A registered announcement stays registered. -/
theorem Current.mono (h : ∀ r ∈ net.registered, r ∈ net'.registered) {m : Mesh}
    (hm : Current mac net m) : Current mac net' m := fun hadvertise =>
  have ⟨hlatest,hregistered⟩ := hm hadvertise
  ⟨hlatest,fun a ha => h _ (hregistered a ha)⟩

/-- A step of the node itself, of which the registration is kept. -/
theorem Current.step {m m' : Mesh} {own : Action} (h : Current mac net m)
    (hg : announcesInOrder m own=true) (hs : MeshRuntime.step mac m own=some m')
    (hold : ∀ r ∈ net.registered, r ∈ net'.registered)
    (hnew : ∀ r, registration m own=some r → r ∈ net'.registered) : Current mac net' m' := by
  intro hadvertise
  have hconfig := (step_frame hs).config
  rw [hconfig] at hadvertise ⊢
  obtain ⟨⟨latest,hlatest⟩,hregistered⟩ := h hadvertise
  have hfails : fails own=false := by
    rw [announcesInOrder,Bool.and_eq_true,Bool.not_eq_true'] at hg
    exact hg.1
  refine ⟨hlatest.step hadvertise hg hs,fun a ha => ?_⟩
  rcases step_lastAnnounced hfails hs ha with ha|hr
  · exact hold _ (hregistered a ha)
  · exact hnew _ hr

/-- A new node has announced nothing. -/
theorem Current.init {config : ZeroConfConfig} {m : Mesh} (hvalid : Validated config)
    (h : Mesh.init mac config=.ok m) : Current mac net m := by
  intro hadvertise
  have hconfig := (LocalInvariant.init hvalid h).unchanged
  refine ⟨⟨_,Announcing.init hvalid (hconfig ▸ hadvertise) h⟩,fun a ha => ?_⟩
  obtain ⟨b,-,rfl⟩ := init_ok h
  rw [Shared.copied,(sign_frame mac _ _).2.1] at ha
  cases ha

/-- A current node on which nothing is in progress has registered its local announcement, which
carries its own tag when a shared secret is configured. -/
theorem Current.settled {m : Mesh} (h : Current mac net m)
    (hadvertise : m.config.advertiseLocal=true) (hquiet : m.Quiescent) :
    { config := m.config, announcement := m.shared.localAgent : Registration } ∈ net.registered ∧
    ∀ auth, m.config.sharedSecretAuth=some auth → SelfSigned mac auth m.shared.localAgent := by
  obtain ⟨⟨latest,hlatest⟩,hregistered⟩ := h hadvertise
  have hrefresh : Pending.refresh ∉ m.pendings := by
    rw [hquiet.pendings]
    exact List.not_mem_nil
  have hempty : waiting announceOf m=∅ := by
    rw [Set.eq_empty_iff_forall_notMem]
    rintro _ ⟨snapshot,hs,rfl⟩
    rw [awaiting,hquiet.pendings] at hs
    exact absurd hs List.not_mem_nil
  have hlast := hlatest.announces.settled hempty
  rw [←hlatest.newest.resolve_right hrefresh] at hlast
  exact ⟨hregistered _ hlast,fun auth hauth => (hlatest.signed auth hauth).resolve_right hrefresh⟩

variable [DecidableEq ι] {transport : Transport} {action : NetworkAction ι} {j : ι}

/-- A node of a network announces in order; the others are free. -/
def inOrderAt (j : ι) (net : Network ι) : NetworkAction ι → Bool
  | .act i action => i ≠ j || (net.nodes i).all fun m => announcesInOrder m action
  | _ => true

/-- The guard of a run in which a node announces in order. -/
def InOrderAt (j : ι) (net : Network ι) (action : NetworkAction ι) : Prop :=
  inOrderAt j net action=true

instance (j : ι) (net : Network ι) (action : NetworkAction ι) :
    Decidable (InOrderAt j net action) :=
  inferInstanceAs (Decidable (_=true))

/-- The node at a place is current. -/
def CurrentAt (mac : Mac) (j : ι) (net : Network ι) : Prop :=
  Live (fun i m => i=j → Current mac net m) net.nodes

/-- A node that moves in order stays current, and so does a node that another one does not
concern. -/
theorem CurrentAt.moved (h : CurrentAt mac j net) {i : ι} {m m' : Mesh} {own : Action}
    (hnode : net.nodes i=some m) (hs : MeshRuntime.step mac m own=some m')
    (hg : i=j → announcesInOrder m own=true) (hnodes : net'.nodes=place net.nodes i (some m'))
    (hold : ∀ r ∈ net.registered, r ∈ net'.registered)
    (hnew : ∀ r, registration m own=some r → r ∈ net'.registered) : CurrentAt mac j net' := by
  intro k t ht hk
  rw [hnodes] at ht
  rcases place_cases ht with ⟨rfl,hst⟩|⟨-,ht⟩
  · cases hst
    exact (h k m hnode hk).step (hg hk) hs hold hnew
  · exact (h k t ht hk).mono hold

/-- Every step that keeps the order of a node keeps it current. -/
theorem CurrentAt.step (h : CurrentAt mac j net) (hg : InOrderAt j net action)
    (hs : net.step mac transport action=some net') : CurrentAt mac j net' := by
  cases step_cases hs with
  | build i generatedId builder config m free hconfig hinit =>
    have hvalid := (MeshBuilder.buildConfig_built hconfig).validated
    exact Live.place (fun k t ht hk => (h k t ht hk).mono fun r => id)
      fun _ => Current.init hvalid hinit
  | act i own m m' hnode hown hm =>
    refine h.moved hnode hm (fun hi => ?_) rfl (fun r => List.mem_append_left _) fun r hr =>
      List.mem_append_right _ (Option.mem_toList.mpr hr)
    rw [InOrderAt,inOrderAt,hnode,Option.all_some,Bool.or_eq_true,decide_eq_true_eq] at hg
    exact hg.resolve_left fun hne => hne hi
  | deliver i n addresses now r m m' hnode hregistered hm =>
    exact h.moved hnode hm (fun _ => rfl) rfl (fun r => id) fun r hr => nomatch hr
  | inject i service now m m' hnode hm =>
    exact h.moved hnode hm (fun _ => rfl) rfl (fun r => id) fun r hr => nomatch hr
  | vanish i => exact Live.clear h i

/-- In every run in which a node announces in order, it is current. -/
theorem CurrentAt.run {actions : List (NetworkAction ι)}
    (hg : Guarded (Network.step mac transport) (InOrderAt j) (Network.empty ι) actions)
    (hrun : exec (Network.step mac transport) (Network.empty ι) actions=some net) :
    CurrentAt mac j net :=
  invariant_of_guarded (CurrentAt mac j) (fun _ _ _ h hg hs => h.step hg hs) hg hrun (Live.none _)

end Networks

end MeshPresence.CurrentAnnouncement
